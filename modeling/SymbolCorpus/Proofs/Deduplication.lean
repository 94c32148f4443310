import Mathlib.Data.List.Induction
import Mathlib.Data.List.Nodup
import SymbolCorpus.Proofs.Lanes
import SymbolCorpus.Proofs.Lines
import SymbolCorpus.Proofs.Rendering
import SymbolCorpus.Proofs.Writes

/-! # What a corpus keeps

A lane takes in the pairs of the records that have a name to show, in the order of the records. With
de-duplication only the first of equal pairs stays. Pairs are known by a digest of target and source
in one text; since no target has a bar in it, the text tells the pairs apart, and a pair can be taken
for another only when the digests of two texts collide.
-/

namespace SymbolCorpus

open Text

/-! ## Lists without repetitions -/

section Repetitions

variable {α : Type} [BEq α] [LawfulBEq α]

theorem eraseDups_append_of_mem {x : α} {xs : List α} (h : x ∈ xs) :
    (xs ++ [x]).eraseDups = xs.eraseDups := by
  have known : [x].removeAll xs = [] := by simp [List.removeAll, h]
  rw [List.eraseDups_append, known, List.eraseDups_nil, List.append_nil]

theorem eraseDups_append_of_not_mem {x : α} {xs : List α} (h : x ∉ xs) :
    (xs ++ [x]).eraseDups = xs.eraseDups ++ [x] := by
  have new : [x].removeAll xs = [x] := by simp [List.removeAll, h]
  rw [List.eraseDups_append, new, List.eraseDups_cons, List.filter_nil, List.eraseDups_nil]

theorem nodup_eraseDups (xs : List α) : xs.eraseDups.Nodup := by
  induction xs using List.reverseRecOn with
  | nil => exact List.nodup_nil
  | append_singleton xs x ih =>
      by_cases known : x ∈ xs
      · rwa [eraseDups_append_of_mem known]
      · rw [eraseDups_append_of_not_mem known]
        refine List.nodup_append.mpr ⟨ih, List.nodup_singleton x, ?_⟩
        intro earlier member last isLast same
        obtain rfl := List.mem_singleton.mp isLast
        exact known (List.mem_eraseDups.mp (same ▸ member))

end Repetitions

/-! ## Digests of pairs -/

namespace Sha256

theorem digitChar_injective : ∀ first second : Fin 16,
    Nat.digitChar first = Nat.digitChar second → first = second := by decide

theorem hexOctet_injective : Function.Injective hexOctet := by
  intro first second same
  have high := digitChar_injective ⟨first.toNat / 16, by have := first.toNat_lt; omega⟩
    ⟨second.toNat / 16, by have := second.toNat_lt; omega⟩
  have low := digitChar_injective ⟨first.toNat % 16, by omega⟩ ⟨second.toNat % 16, by omega⟩
  simp only [hexOctet, List.cons.injEq, and_true] at same
  have quotients := Fin.mk.inj (high same.1)
  have remainders := Fin.mk.inj (low same.2)
  apply UInt8.toNat_inj.mp
  omega

theorem hexOctets_injective {first second : List UInt8}
    (h : first.flatMap hexOctet = second.flatMap hexOctet) : first = second := by
  induction first generalizing second with
  | nil =>
      cases second with
      | nil => rfl
      | cons octet rest => cases h
  | cons octet rest ih =>
      cases second with
      | nil => cases h
      | cons other more =>
          rw [List.flatMap_cons, List.flatMap_cons] at h
          obtain ⟨digits, later⟩ := List.append_inj h rfl
          rw [hexOctet_injective digits, ih later]

theorem digest_eq_of_hexDigest_eq {first second : ByteArray}
    (h : hexDigest first = hexDigest second) : digest first = digest second := by
  have digits := congrArg String.toList h
  rw [hexDigest, hexDigest, String.toList_ofList, String.toList_ofList] at digits
  exact hexOctets_injective digits

end Sha256

/-- The text that the digest of a pair is taken of. -/
def CorpusPair.hashed (pair : CorpusPair) : List Char := pair.target ++ '|' :: pair.source

/-- The only bar that ends a target is the one before the source. -/
theorem CorpusPair.eq_of_hashed_eq {first second : CorpusPair} (plain : '|' ∉ first.target)
    (plainOther : '|' ∉ second.target) (h : first.hashed = second.hashed) : first = second := by
  unfold CorpusPair.hashed at h
  have cut := congrArg (splitOn '|') h
  rw [splitOn_append_separator, splitOn_append_separator, splitOn_of_not_mem plain,
    splitOn_of_not_mem plainOther] at cut
  have target := (List.cons.inj cut).1
  rw [target] at h
  have source := (List.cons.inj (List.append_cancel_left h)).2
  cases first
  cases second
  rw [CorpusPair.mk.injEq]
  exact ⟨source, target⟩

/-- No two of the pairs have texts that differ and digests that do not. -/
def CollisionFree (pairs : List CorpusPair) : Prop :=
  ∀ first ∈ pairs, ∀ second ∈ pairs,
    Sha256.digest (toOctets first.hashed) = Sha256.digest (toOctets second.hashed) →
      toOctets first.hashed = toOctets second.hashed

theorem CollisionFree.eq_of_digest_eq {pairs : List CorpusPair} (free : CollisionFree pairs)
    (plain : ∀ pair ∈ pairs, '|' ∉ pair.target) {first second : CorpusPair} (member : first ∈ pairs)
    (memberOther : second ∈ pairs) (h : first.digest = second.digest) : first = second := by
  have octets := free first member second memberOther (Sha256.digest_eq_of_hexDigest_eq h)
  exact CorpusPair.eq_of_hashed_eq (plain first member) (plain second memberOther)
    (toOctets_injective octets)

theorem CollisionFree.of_append {earlier later : List CorpusPair}
    (free : CollisionFree (earlier ++ later)) : CollisionFree earlier :=
  fun first member second memberOther =>
    free first (List.mem_append_left later member) second (List.mem_append_left later memberOther)

/-! ## One lane -/

namespace Lane

theorem size_add (dedup : Bool) (pair : CorpusPair) (lane : Lane) :
    (lane.add dedup pair).sources.size + (lane.add dedup pair).dropped =
      lane.sources.size + lane.dropped + 1 := by
  unfold Lane.add
  split
  · rw [Lane.push, Array.size_push]
    exact Nat.add_right_comm ..
  · split
    · rfl
    · rw [Lane.push, Array.size_push]
      exact Nat.add_right_comm ..

/-- What a lane has of the pairs that reached it when it drops the repeated ones. -/
structure KeepsFirst (lane : Lane) (pairs : List CorpusPair) : Prop where
  kept : lane.pairs = pairs.eraseDups
  seen : ∀ digest, digest ∈ lane.seen ↔ ∃ pair ∈ pairs, pair.digest = digest

theorem KeepsFirst.empty : Lane.empty.KeepsFirst [] := ⟨rfl, by simp [Lane.empty]⟩

theorem KeepsFirst.drop {lane : Lane} {pairs : List CorpusPair} (keeps : lane.KeepsFirst pairs) :
    lane.drop.KeepsFirst pairs := ⟨keeps.kept, keeps.seen⟩

theorem KeepsFirst.add {lane : Lane} {pairs : List CorpusPair} {pair : CorpusPair}
    (keeps : lane.KeepsFirst pairs) (even : lane.IsEven)
    (apart : ∀ earlier ∈ pairs, earlier.digest = pair.digest → earlier = pair) :
    (lane.add true pair).KeepsFirst (pairs ++ [pair]) := by
  unfold Lane.add
  rw [if_neg (by decide)]
  split
  · next known =>
      obtain ⟨earlier, member, same⟩ := (keeps.seen pair.digest).mp known
      obtain rfl := apart earlier member same
      constructor
      · rw [eraseDups_append_of_mem member]
        exact keeps.kept
      · intro digest
        rw [Lane.drop, keeps.seen digest]
        constructor
        · rintro ⟨found, inPairs, digested⟩
          exact ⟨found, List.mem_append_left _ inPairs, digested⟩
        · rintro ⟨found, inAll, digested⟩
          rcases List.mem_append.mp inAll with inPairs | last
          · exact ⟨found, inPairs, digested⟩
          · obtain rfl := List.mem_singleton.mp last
            exact ⟨found, member, digested⟩
  · next unknown =>
      have new : pair ∉ pairs := fun member =>
        unknown ((keeps.seen pair.digest).mpr ⟨pair, member, rfl⟩)
      constructor
      · rw [eraseDups_append_of_not_mem new, ← keeps.kept]
        exact even.pairs_push pair
      · intro digest
        rw [Std.HashSet.mem_insert, keeps.seen digest]
        simp [or_and_right, exists_or, or_comm]

end Lane

/-! ## All records -/

/-- The name of a record has a letter, so that there is a target to learn. -/
def Record.isNamed (record : Record) : Bool := record.name.toList.any isAlphabetic

/-- The pairs of the named records, in the order of the records. -/
def namedPairs (segmenter : Identifier.Segmenter) (representation : Representation)
    (records : List Record) : List CorpusPair :=
  (records.filter Record.isNamed).map (·.toPair segmenter representation)

section Named

variable {segmenter : Identifier.Segmenter} {representation : Representation}

theorem Record.isEmpty_renderTarget (record : Record) :
    (record.renderTarget segmenter).isEmpty = !record.isNamed := by
  have silent : record.renderTarget segmenter = [] ↔ ∀ c ∈ record.name.toList,
      isAlphabetic c = false := by
    rw [Record.renderTarget, Identifier.Segmenter.display,
      joinWith_eq_nil_iff fun _ member => Identifier.Segmenter.ne_nil_of_mem_segment member,
      Identifier.Segmenter.segment_eq_nil_iff]
  rw [Bool.eq_iff_iff, List.isEmpty_iff, silent, Record.isNamed]
  simp

theorem bar_not_mem_target {records : List Record} {pair : CorpusPair}
    (h : pair ∈ namedPairs segmenter representation records) : '|' ∉ pair.target := by
  obtain ⟨record, -, rfl⟩ := List.mem_map.mp h
  exact not_mem_display (by decide) (by decide) (by decide) segmenter record.name.toList

theorem namedPairs_append (earlier later : List Record) :
    namedPairs segmenter representation (earlier ++ later) =
      namedPairs segmenter representation earlier ++
        namedPairs segmenter representation later := by
  rw [namedPairs, List.filter_append, List.map_append]
  rfl

theorem namedPairs_of_isNamed {record : Record} (h : record.isNamed = true) :
    namedPairs segmenter representation [record] = [record.toPair segmenter representation] := by
  simp [namedPairs, h]

theorem namedPairs_of_not_isNamed {record : Record} (h : record.isNamed = false) :
    namedPairs segmenter representation [record] = [] := by
  simp [namedPairs, h]

end Named

namespace CorpusBuilder

variable {segmenter : Identifier.Segmenter} {dedup : Bool} {representation : Representation}

theorem addTo_eq_ite (builder : CorpusBuilder) (record : Record) (representation : Representation)
    (lane : Lane) :
    builder.addTo record representation lane =
      if record.isNamed then lane.add builder.dedup (record.toPair builder.segmenter representation)
      else lane.drop := by
  rw [addTo_eq, Record.isEmpty_renderTarget]
  cases record.isNamed with
  | false => rfl
  | true => rfl

theorem foldl_add_settings (records : List Record) (builder : CorpusBuilder) :
    (records.foldl add builder).segmenter = builder.segmenter ∧
      (records.foldl add builder).dedup = builder.dedup := by
  induction records generalizing builder with
  | nil => exact ⟨rfl, rfl⟩
  | cons record records ih => exact ih (builder.add record)

theorem lane_foldl_concat (records : List Record) (record : Record) :
    (((records ++ [record]).foldl add (empty segmenter dedup)).lanes.get representation) =
      let lane := (records.foldl add (empty segmenter dedup)).lanes.get representation
      if record.isNamed then lane.add dedup (record.toPair segmenter representation)
      else lane.drop := by
  obtain ⟨segments, drops⟩ := foldl_add_settings records (empty segmenter dedup)
  rw [List.foldl_concat, lane_add, addTo_eq_ite, segments, drops]
  rfl

theorem lane_empty : (empty segmenter dedup).lanes.get representation = .empty := by
  cases representation with
  | _ => rfl

theorem size_add_dropped (records : List Record) :
    let lane := (records.foldl add (empty segmenter dedup)).lanes.get representation
    lane.sources.size + lane.dropped = records.length := by
  induction records using List.reverseRecOn with
  | nil => rw [List.foldl_nil, lane_empty]; rfl
  | append_singleton records record ih =>
      rw [lane_foldl_concat, List.length_append, List.length_singleton, ← ih]
      split
      · exact Lane.size_add ..
      · rfl

theorem pairs_foldl_of_not_dedup (records : List Record) :
    ((records.foldl add (empty segmenter false)).lanes.get representation).pairs =
      namedPairs segmenter representation records := by
  induction records using List.reverseRecOn with
  | nil => rw [List.foldl_nil, lane_empty]; rfl
  | append_singleton records record ih =>
      rw [lane_foldl_concat, namedPairs_append, ← ih]
      split
      · next named =>
          rw [namedPairs_of_isNamed named]
          exact ((isEven_empty segmenter false).foldl records representation).pairs_push _
      · next unnamed =>
          rw [namedPairs_of_not_isNamed (by simpa using unnamed), List.append_nil]
          rfl

/-- With de-duplication the first of equal pairs is kept. -/
theorem keepsFirst_foldl {records : List Record}
    (free : CollisionFree (namedPairs segmenter representation records)) :
    ((records.foldl add (empty segmenter true)).lanes.get representation).KeepsFirst
      (namedPairs segmenter representation records) := by
  induction records using List.reverseRecOn with
  | nil =>
      rw [List.foldl_nil, lane_empty]
      exact .empty
  | append_singleton records record ih =>
      rw [namedPairs_append] at free
      have earlier := ih free.of_append
      rw [lane_foldl_concat, namedPairs_append]
      split
      · next named =>
          rw [namedPairs_of_isNamed named] at free ⊢
          have even := (isEven_empty segmenter true).foldl records representation
          refine earlier.add even fun pair member same => ?_
          refine free.eq_of_digest_eq ?_ (List.mem_append_left _ member) (by simp) same
          rw [← namedPairs_of_isNamed named, ← namedPairs_append]
          exact fun _ => bar_not_mem_target
      · next unnamed =>
          rw [namedPairs_of_not_isNamed (by simpa using unnamed), List.append_nil]
          exact earlier.drop

theorem length_pairs_add_dropped (segmenter : Identifier.Segmenter) (dedup : Bool)
    (additions : List Addition) (representation : Representation) :
    ((build segmenter dedup additions).pairs representation).length +
        (build segmenter dedup additions).dropped representation =
      (additions.flatMap Addition.records).length := by
  have sources := (isEven_build segmenter dedup additions).sources_eq representation
  rw [← List.length_map (·.source), ← sources, build_eq]
  exact size_add_dropped _

/-- However records are added, every lane has as many sources as targets, and every record is kept or
    dropped. Without de-duplication a lane has the pairs of the named records; with it, as long as no
    two of their digests collide, it has the first of equal ones and no pair twice. -/
theorem lanes_build (segmenter : Identifier.Segmenter) (representation : Representation)
    (additions : List Addition) :
    let records := additions.flatMap Addition.records
    let named := namedPairs segmenter representation records
    (∀ dedup, let corpus := build segmenter dedup additions
      (corpus.sources representation).length = (corpus.targets representation).length ∧
        corpus.sources representation = (corpus.pairs representation).map (·.source) ∧
        corpus.targets representation = (corpus.pairs representation).map (·.target) ∧
        (corpus.pairs representation).length + corpus.dropped representation = records.length) ∧
    (build segmenter false additions).pairs representation = named ∧
    (CollisionFree named →
      (build segmenter true additions).pairs representation = named.eraseDups ∧
      ((build segmenter true additions).pairs representation).Nodup ∧
      ∀ pair, pair ∈ (build segmenter true additions).pairs representation ↔ pair ∈ named) := by
  intro records named
  refine ⟨fun dedup => ?_, ?_, fun free => ?_⟩
  · have even := isEven_build segmenter dedup additions
    refine ⟨even representation, even.sources_eq representation, even.targets_eq representation, ?_⟩
    exact length_pairs_add_dropped segmenter dedup additions representation
  · rw [build_eq]
    exact pairs_foldl_of_not_dedup records
  · have kept : (build segmenter true additions).pairs representation = named.eraseDups := by
      rw [build_eq]
      exact (keepsFirst_foldl free).kept
    rw [kept]
    exact ⟨rfl, nodup_eraseDups named, fun pair => List.mem_eraseDups⟩

/-- A record with a line of one token. -/
def oneTokenRecord (name token : String) : Record := ⟨0, "0_15", name, [], [], [], [token]⟩

/-- A record, one without a letter in its name, and the first again with another of the same line. -/
def repeatedAdditions : List Addition :=
  [.one (oneTokenRecord "a" "x"), .one (oneTokenRecord "1234" "x"),
    .all (.ofPairs [("0_15", oneTokenRecord "a" "x"), ("16_31", oneTokenRecord "b" "x")])]

theorem namedPairs_repeatedAdditions :
    namedPairs .plain .pseudoCode (repeatedAdditions.flatMap Addition.records) =
      [⟨['x'], ['a']⟩, ⟨['x'], ['a']⟩, ⟨['x'], ['b']⟩] := by
  decide +kernel

/-- The repeated record and the one without a letter are dropped, the other record stays. -/
theorem pairs_repeatedAdditions :
    CollisionFree (namedPairs .plain .pseudoCode (repeatedAdditions.flatMap Addition.records)) ∧
      (build .plain true repeatedAdditions).pairs .pseudoCode =
        [⟨['x'], ['a']⟩, ⟨['x'], ['b']⟩] ∧
      (build .plain true repeatedAdditions).dropped .pseudoCode = 2 := by
  have free : CollisionFree
      (namedPairs .plain .pseudoCode (repeatedAdditions.flatMap Addition.records)) := by
    rw [namedPairs_repeatedAdditions]
    unfold CollisionFree
    decide +kernel
  obtain ⟨counts, -, kept⟩ := lanes_build .plain .pseudoCode repeatedAdditions
  have pairs : (build .plain true repeatedAdditions).pairs .pseudoCode =
      [⟨['x'], ['a']⟩, ⟨['x'], ['b']⟩] := by
    rw [(kept free).1, namedPairs_repeatedAdditions]
    decide
  have added : (repeatedAdditions.flatMap Addition.records).length = 4 := by decide +kernel
  have total := (counts true).2.2.2
  rw [pairs, added, List.length_cons, List.length_singleton] at total
  exact ⟨free, pairs, by omega⟩

end CorpusBuilder

end SymbolCorpus
