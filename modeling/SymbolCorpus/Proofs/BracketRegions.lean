import Mathlib.Data.List.Induction
import Mathlib.Data.Nat.Find
import Mathlib.Logic.Function.Iterate
import SymbolCorpus.Proofs.BracketMatching

/-! # Regions of brackets

Brackets of one kind are taken out of a text in rounds, each of which takes out the innermost parts. The
rounds come to an end. What is left then is what one reading from left to right leaves, in which each
closing bracket gets the nearest opening one before it that has no partner yet: the characters outside
of all regions from an opening bracket to its partner.

Nothing more can be taken out of what is left, nor is there anything again after brackets of other kinds
have been taken out: an innermost part is there exactly when some opening bracket comes before some
closing one, and no such pair comes about by taking characters out.
-/

namespace SymbolCorpus

namespace Brackets

variable {brackets : Brackets} {text : List Char}

/-! ## Innermost parts -/

/-- The text has an opening bracket, and behind it a closing one with no bracket between the two. -/
def HasInnermost (brackets : Brackets) (text : List Char) : Prop :=
  ∃ before inner after, text = before ++ brackets.opening :: (inner ++ brackets.closing :: after) ∧
    brackets.opening ∉ inner ∧ brackets.closing ∉ inner

theorem hasInnermost_cons_iff {c : Char} : brackets.HasInnermost (c :: text) ↔
    (c = brackets.opening ∧ ∃ after, brackets.afterClosing? text = some after) ∨
      brackets.HasInnermost text := by
  constructor
  · rintro ⟨before, inner, after, whole, noOpening, noClosing⟩
    cases before with
    | nil =>
        cases whole
        exact .inl ⟨rfl, after, afterClosing?_eq_some_iff.mpr ⟨inner, rfl, noOpening, noClosing⟩⟩
    | cons d before =>
        cases whole
        exact .inr ⟨before, inner, after, rfl, noOpening, noClosing⟩
  · rintro (⟨rfl, after, region⟩ | ⟨before, inner, after, rfl, noOpening, noClosing⟩)
    · obtain ⟨inner, rfl, noOpening, noClosing⟩ := afterClosing?_eq_some_iff.mp region
      exact ⟨[], inner, after, rfl, noOpening, noClosing⟩
    · exact ⟨c :: before, inner, after, rfl, noOpening, noClosing⟩

/-- There is an innermost part exactly when some opening bracket comes before some closing one: between
    such a pair stands a nearest one. -/
theorem hasInnermost_iff_sublist :
    brackets.HasInnermost text ↔ [brackets.opening, brackets.closing].Sublist text := by
  constructor
  · rintro ⟨before, inner, after, rfl, -, -⟩
    have closing : [brackets.closing].Sublist (inner ++ brackets.closing :: after) := by simp
    exact (closing.cons_cons brackets.opening).trans (List.sublist_append_right before _)
  · intro h
    induction text with
    | nil => cases h
    | cons c rest ih =>
        by_cases later : [brackets.opening, brackets.closing].Sublist rest
        · exact hasInnermost_cons_iff.mpr (.inr (ih later))
        · cases h with
          | cons _ h => exact absurd h later
          | cons_cons _ h =>
              obtain ⟨inner, after, rfl, noClosing⟩ :=
                List.eq_append_cons_of_mem (List.singleton_sublist.mp h)
              refine ⟨[], inner, after, rfl, fun member => later ?_, noClosing⟩
              exact (List.singleton_sublist.mpr member).append
                (List.singleton_sublist.mpr List.mem_cons_self)

theorem HasInnermost.of_sublist {part : List Char} (h : brackets.HasInnermost part)
    (within : part.Sublist text) : brackets.HasInnermost text :=
  hasInnermost_iff_sublist.mpr ((hasInnermost_iff_sublist.mp h).trans within)

/-! ## Rounds -/

theorem stripInnermost_round (brackets : Brackets) (text : List Char) :
    (brackets.HasInnermost text → (brackets.stripInnermost text).length + 2 ≤ text.length) ∧
      (¬ brackets.HasInnermost text → brackets.stripInnermost text = text) := by
  fun_induction brackets.stripInnermost text with
  | case1 => simp [hasInnermost_iff_sublist]
  | case2 rest after region ih =>
      have shorter := length_afterClosing?_lt brackets region
      have notLonger := length_stripInnermost_le brackets after
      have present : brackets.HasInnermost (brackets.opening :: rest) :=
        hasInnermost_cons_iff.mpr (.inl ⟨rfl, after, region⟩)
      refine ⟨fun _ => ?_, fun absent => absurd present absent⟩
      rw [List.length_cons]
      omega
  | case3 rest noRegion ih =>
      have same : brackets.HasInnermost (brackets.opening :: rest) ↔ brackets.HasInnermost rest := by
        simp [hasInnermost_cons_iff, noRegion]
      simpa [same] using ih
  | case4 c rest notOpening ih =>
      have same : brackets.HasInnermost (c :: rest) ↔ brackets.HasInnermost rest := by
        simp [hasInnermost_cons_iff, notOpening]
      simpa [same] using ih

/-- Rounds are made as long as there is an innermost part, and this is left when there is none. -/
structure EndsAfter (brackets : Brackets) (text left : List Char) (rounds : Nat) : Prop where
  made : left = brackets.stripInnermost^[rounds] text
  going : ∀ earlier < rounds, brackets.HasInnermost (brackets.stripInnermost^[earlier] text)
  ended : ¬ brackets.HasInnermost left

/-- The rounds come to an end, since each of them takes out two brackets at least. -/
theorem exists_endsAfter (brackets : Brackets) (text : List Char) :
    ∃ rounds, 2 * rounds ≤ text.length ∧ brackets.EndsAfter text (brackets.strip text) rounds := by
  fun_induction brackets.strip text with
  | case1 text stripped shorter ih =>
      obtain ⟨rounds, bound, ends⟩ := ih
      have present : brackets.HasInnermost text := by
        refine Classical.byContradiction fun absent => Nat.lt_irrefl text.length ?_
        simpa only [stripped, (stripInnermost_round brackets text).2 absent] using shorter
      have two : stripped.length + 2 ≤ text.length := (stripInnermost_round brackets text).1 present
      refine ⟨rounds + 1, by omega, ends.made, fun earlier before => ?_, ends.ended⟩
      cases earlier with
      | zero => exact present
      | succ earlier => exact ends.going earlier (Nat.lt_of_succ_lt_succ before)
  | case2 text stripped same =>
      refine ⟨0, Nat.zero_le _, rfl, fun _ before => absurd before (Nat.not_lt_zero _), fun present => ?_⟩
      have two : stripped.length + 2 ≤ text.length := (stripInnermost_round brackets text).1 present
      omega

theorem not_hasInnermost_strip (brackets : Brackets) (text : List Char) :
    ¬ brackets.HasInnermost (brackets.strip text) := by
  obtain ⟨rounds, -, ends⟩ := exists_endsAfter brackets text
  exact ends.ended

/-! ## Several kinds -/

/-- The kinds of brackets that are taken out of a signature, in their order. -/
def kinds : List Brackets := [angle, round, square, grave]

/-- The text without the bracketed parts of one kind after the other. -/
def stripEach (each : List Brackets) (text : List Char) : List Char :=
  each.foldl (fun left brackets => brackets.strip left) text

theorem stripBrackets_eq_stripEach (text : List Char) : stripBrackets text = stripEach kinds text := rfl

theorem stripEach_sublist (each : List Brackets) (text : List Char) :
    (stripEach each text).Sublist text := by
  induction each generalizing text with
  | nil => exact List.Sublist.refl text
  | cons brackets each ih => exact (ih (brackets.strip text)).trans (strip_sublist brackets text)

/-- No innermost part comes about when other brackets are taken out. -/
theorem not_hasInnermost_stripEach_strip (brackets : Brackets) (others : List Brackets)
    (text : List Char) : ¬ brackets.HasInnermost (stripEach others (brackets.strip text)) :=
  fun present => not_hasInnermost_strip brackets text (present.of_sublist (stripEach_sublist others _))

theorem not_hasInnermost_stripEach {each : List Brackets} (kind : brackets ∈ each) (text : List Char) :
    ¬ brackets.HasInnermost (stripEach each text) := by
  obtain ⟨earlier, others, rfl⟩ := List.append_of_mem kind
  have turns : stripEach (earlier ++ brackets :: others) text =
      stripEach others (brackets.strip (stripEach earlier text)) := by simp [stripEach]
  rw [turns]
  exact not_hasInnermost_stripEach_strip brackets others _

/-! ## One reading from left to right -/

/-- What is known after a part of a text has been read: the places of the opening brackets that have no
    partner yet, the last one first, and the regions from an opening bracket to its partner. -/
structure Reading where
  opened : List Nat
  regions : List (Nat × Nat)
  deriving Repr, DecidableEq

/-- A closing bracket gets the last opening one that has no partner yet. -/
def Reading.next (brackets : Brackets) (reading : Reading) (c : Char) (place : Nat) : Reading :=
  if c = brackets.closing then
    match reading.opened with
    | [] => reading
    | start :: outer => ⟨outer, (start, place) :: reading.regions⟩
  else if c = brackets.opening then { reading with opened := place :: reading.opened }
  else reading

def read (brackets : Brackets) (text : List Char) : Reading :=
  text.zipIdx.foldl (fun reading (c, place) => reading.next brackets c place) ⟨[], []⟩

/-- The regions of a text, each by the places of its two brackets. -/
def regions (brackets : Brackets) (text : List Char) : List (Nat × Nat) := (brackets.read text).regions

/-- One of the regions has the place. -/
def covers (regions : List (Nat × Nat)) (place : Nat) : Bool :=
  regions.any fun region => region.1 ≤ place && place ≤ region.2

/-- The text without the regions. -/
def outside (regions : List (Nat × Nat)) (text : List Char) : List Char :=
  (text.zipIdx.filter fun entry => !covers regions entry.2).map Prod.fst

theorem read_concat (brackets : Brackets) (text : List Char) (c : Char) :
    brackets.read (text ++ [c]) = (brackets.read text).next brackets c text.length := by
  simp [read, List.zipIdx_append]

theorem outside_concat (regions : List (Nat × Nat)) (text : List Char) (c : Char) :
    outside regions (text ++ [c]) =
      outside regions text ++ if covers regions text.length then [] else [c] := by
  cases covered : covers regions text.length <;> simp [outside, List.zipIdx_append, covered]

theorem outside_congr {regions others : List (Nat × Nat)}
    (same : ∀ place < text.length, covers regions place = covers others place) :
    outside regions text = outside others text := by
  refine congrArg (List.map Prod.fst) (List.filter_congr fun entry member => ?_)
  rw [same entry.2 (by simpa using List.snd_lt_of_mem_zipIdx member)]

theorem outside_of_covered {regions : List (Nat × Nat)} (text : List Char) {more : List Char}
    (covered : ∀ place, text.length ≤ place → place < text.length + more.length →
      covers regions place = true) :
    outside regions (text ++ more) = outside regions text := by
  induction more using List.reverseRecOn with
  | nil => rw [List.append_nil]
  | append_singleton more c ih =>
      have last := covered (text ++ more).length (by simp) (by simp)
      rw [← List.append_assoc, outside_concat, last, if_pos rfl, List.append_nil]
      exact ih fun place from' upTo => covered place from' (by
        rw [List.length_append]
        omega)

/-! ## What one reading finds -/

/-- An opening bracket that stands before this place and has no partner before it. -/
structure IsFree (brackets : Brackets) (text : List Char) (regions : List (Nat × Nat))
    (start stop : Nat) : Prop where
  before : start < stop
  opening : text[start]? = some brackets.opening
  alone : ∀ other < stop, (start, other) ∉ regions

/-- A closing bracket and the nearest opening one before it that has no partner there. -/
structure ArePartners (brackets : Brackets) (text : List Char) (regions : List (Nat × Nat))
    (start stop : Nat) : Prop where
  closing : text[stop]? = some brackets.closing
  free : brackets.IsFree text regions start stop
  nearest : ∀ between, start < between → ¬ brackets.IsFree text regions between stop

/-- The regions are those from an opening bracket to its partner. -/
def IsMatching (brackets : Brackets) (text : List Char) (regions : List (Nat × Nat)) : Prop :=
  ∀ start stop, (start, stop) ∈ regions ↔ brackets.ArePartners text regions start stop

/-- What holds of a reading when this text has been read. -/
structure Reads (brackets : Brackets) (text : List Char) (reading : Reading) : Prop where
  opened : ∀ start, start ∈ reading.opened ↔
    text[start]? = some brackets.opening ∧ ∀ stop, (start, stop) ∉ reading.regions
  lastFirst : reading.opened.Pairwise (· > ·)
  within : ∀ start stop, (start, stop) ∈ reading.regions → stop < text.length
  matching : brackets.IsMatching text reading.regions

theorem opened_next (brackets : Brackets) (reading : Reading) (c : Char) (place : Nat) :
    (reading.next brackets c place).opened =
      if c = brackets.closing then reading.opened.tail
      else if c = brackets.opening then place :: reading.opened else reading.opened := by
  unfold Reading.next
  split
  · split
    · next empty => rw [empty, List.tail_nil]
    · next start outer opened => rw [opened, List.tail_cons]
  · split <;> rfl

theorem mem_regions_next {reading : Reading} {c : Char} {place start stop : Nat} :
    (start, stop) ∈ (reading.next brackets c place).regions ↔ (start, stop) ∈ reading.regions ∨
      stop = place ∧ c = brackets.closing ∧ reading.opened.head? = some start := by
  unfold Reading.next
  split
  · next closing =>
      split
      · next empty => simp [empty]
      · next top outer opened =>
          rw [List.mem_cons, Prod.mk.injEq, opened, List.head?_cons, Option.some.injEq, or_comm]
          simp [closing, and_comm, eq_comm]
  · next notClosing =>
      rw [or_iff_left fun last => notClosing last.2.1]
      split <;> rfl

theorem mem_regions_next_of_lt {reading : Reading} {c : Char} {place start stop : Nat}
    (before : stop < place) :
    (start, stop) ∈ (reading.next brackets c place).regions ↔ (start, stop) ∈ reading.regions := by
  rw [mem_regions_next]
  exact or_iff_left fun last => Nat.ne_of_lt before last.1

theorem getElem?_concat_eq_some_iff {c d : Char} {place : Nat} :
    (text ++ [c])[place]? = some d ↔ text[place]? = some d ∨ place = text.length ∧ c = d := by
  grind

section LastFirst

variable {places : List Nat} (ordered : places.Pairwise (· > ·)) {place : Nat}

include ordered

theorem mem_tail_iff : place ∈ places.tail ↔ place ∈ places ∧ ¬ places.head? = some place := by
  cases places with
  | nil => simp
  | cons top outer =>
      have before : ∀ place ∈ outer, place < top := (List.pairwise_cons.mp ordered).1
      grind

theorem head?_eq_some_iff_greatest :
    places.head? = some place ↔ place ∈ places ∧ ∀ later, place < later → later ∉ places := by
  cases places with
  | nil => simp
  | cons top outer =>
      have before : ∀ place ∈ outer, place < top := (List.pairwise_cons.mp ordered).1
      grind

end LastFirst

section Congr

variable {other : List Char} {regions others : List (Nat × Nat)} {start stop : Nat}

theorem IsFree.congr (h : brackets.IsFree text regions start stop)
    (look : ∀ place < stop, other[place]? = text[place]?)
    (same : ∀ start, ∀ place < stop, (start, place) ∈ others ↔ (start, place) ∈ regions) :
    brackets.IsFree other others start stop where
  before := h.before
  opening := (look start h.before).trans h.opening
  alone := fun place before member => h.alone place before ((same start place before).mp member)

theorem ArePartners.congr (h : brackets.ArePartners text regions start stop)
    (look : ∀ place ≤ stop, other[place]? = text[place]?)
    (same : ∀ start, ∀ place < stop, (start, place) ∈ others ↔ (start, place) ∈ regions) :
    brackets.ArePartners other others start stop where
  closing := (look stop (Nat.le_refl stop)).trans h.closing
  free := h.free.congr (fun place before => look place (Nat.le_of_lt before)) same
  nearest := fun between behind free => h.nearest between behind (free.congr
    (fun place before => (look place (Nat.le_of_lt before)).symm)
    fun start place before => (same start place before).symm)

theorem arePartners_congr (look : ∀ place ≤ stop, other[place]? = text[place]?)
    (same : ∀ start, ∀ place < stop, (start, place) ∈ others ↔ (start, place) ∈ regions) :
    brackets.ArePartners text regions start stop ↔ brackets.ArePartners other others start stop :=
  ⟨fun partners => partners.congr look same, fun partners => partners.congr
    (fun place upTo => (look place upTo).symm) fun start place before => (same start place before).symm⟩

end Congr

section Step

variable {reading : Reading} (h : brackets.Reads text reading)

include h

theorem Reads.lt_of_mem_opened {start : Nat} (member : start ∈ reading.opened) : start < text.length :=
  (List.getElem?_eq_some_iff.mp ((h.opened start).mp member).1).1

section New

variable {c : Char} {regions : List (Nat × Nat)}
  (same : ∀ start, ∀ stop < text.length, (start, stop) ∈ regions ↔ (start, stop) ∈ reading.regions)
  {start : Nat}

include same

theorem Reads.isFree_last_iff :
    brackets.IsFree (text ++ [c]) regions start text.length ↔ start ∈ reading.opened := by
  constructor
  · intro free
    have opening := getElem?_concat_eq_some_iff.mp free.opening
    refine (h.opened start).mpr ⟨opening.resolve_right fun last => ?_, fun stop member => ?_⟩
    · exact Nat.ne_of_lt free.before last.1
    · have before := h.within start stop member
      exact free.alone stop before ((same start stop before).mpr member)
  · intro member
    obtain ⟨opening, alone⟩ := (h.opened start).mp member
    exact ⟨h.lt_of_mem_opened member, getElem?_concat_eq_some_iff.mpr (.inl opening),
      fun stop before inside => alone stop ((same start stop before).mp inside)⟩

theorem Reads.arePartners_last_iff :
    brackets.ArePartners (text ++ [c]) regions start text.length ↔
      c = brackets.closing ∧ reading.opened.head? = some start := by
  rw [head?_eq_some_iff_greatest h.lastFirst]
  constructor
  · intro partners
    refine ⟨by simpa using partners.closing, (h.isFree_last_iff same).mp partners.free, ?_⟩
    intro later behind member
    exact partners.nearest later behind ((h.isFree_last_iff same).mpr member)
  · rintro ⟨rfl, member, last⟩
    refine ⟨by simp, (h.isFree_last_iff same).mpr member, fun between behind free => ?_⟩
    exact last between behind ((h.isFree_last_iff same).mp free)

end New

variable (c : Char)

theorem Reads.within_next {start stop : Nat}
    (member : (start, stop) ∈ (reading.next brackets c text.length).regions) :
    stop < (text ++ [c]).length := by
  rw [List.length_append, List.length_singleton]
  rcases mem_regions_next.mp member with old | ⟨rfl, -, -⟩
  · exact Nat.lt_succ_of_lt (h.within start stop old)
  · exact Nat.lt_succ_self _

theorem Reads.lastFirst_next :
    (reading.next brackets c text.length).opened.Pairwise (· > ·) := by
  rw [opened_next]
  split
  · exact h.lastFirst.tail
  · split
    · exact List.pairwise_cons.mpr ⟨fun start member => h.lt_of_mem_opened member, h.lastFirst⟩
    · exact h.lastFirst

theorem Reads.matching_next :
    brackets.IsMatching (text ++ [c]) (reading.next brackets c text.length).regions := by
  intro start stop
  rcases Nat.lt_trichotomy stop text.length with before | rfl | behind
  · rw [mem_regions_next_of_lt before, h.matching]
    refine arePartners_congr (fun place upTo => ?_) fun start place earlier =>
      mem_regions_next_of_lt (Nat.lt_trans earlier before)
    exact List.getElem?_append_left (Nat.lt_of_le_of_lt upTo before)
  · rw [h.arePartners_last_iff fun start stop before => mem_regions_next_of_lt before, mem_regions_next]
    refine ⟨fun member => (member.resolve_left fun old => ?_).2, fun last => .inr ⟨rfl, last⟩⟩
    exact Nat.lt_irrefl _ (h.within start text.length old)
  · -- Nothing has been read there.
    refine ⟨fun member => ?_, fun partners => ?_⟩
    · have inside := h.within_next c member
      rw [List.length_append, List.length_singleton] at inside
      omega
    · have inside := (List.getElem?_eq_some_iff.mp partners.closing).1
      rw [List.length_append, List.length_singleton] at inside
      omega

theorem Reads.mem_opened_next (apart : brackets.opening ≠ brackets.closing) {start : Nat} :
    start ∈ (reading.next brackets c text.length).opened ↔
      (text ++ [c])[start]? = some brackets.opening ∧
        ∀ stop, (start, stop) ∉ (reading.next brackets c text.length).regions := by
  have alone : (∀ stop, (start, stop) ∉ (reading.next brackets c text.length).regions) ↔
      (∀ stop, (start, stop) ∉ reading.regions) ∧
        ¬ (c = brackets.closing ∧ reading.opened.head? = some start) := by
    simp [mem_regions_next, not_or, forall_and]
  rw [alone, opened_next, getElem?_concat_eq_some_iff]
  split
  · next closing =>
      have notOpening : ¬ (start = text.length ∧ c = brackets.opening) := fun last =>
        apart (last.2.symm.trans closing)
      rw [or_iff_left notOpening, ← and_assoc, ← h.opened]
      simp only [closing, true_and]
      exact mem_tail_iff h.lastFirst
  · next notClosing =>
      rw [and_iff_left fun last => notClosing last.1]
      split
      · next opening =>
          have new : ∀ stop, (text.length, stop) ∉ reading.regions := fun stop member => by
            have before := ((h.matching text.length stop).mp member).free.before
            have upTo := h.within text.length stop member
            omega
          rw [List.mem_cons, h.opened]
          grind
      · next notOpening => rw [or_iff_left fun last => notOpening last.2, h.opened]

theorem Reads.next (apart : brackets.opening ≠ brackets.closing) :
    brackets.Reads (text ++ [c]) (reading.next brackets c text.length) where
  opened := fun _ => h.mem_opened_next c apart
  lastFirst := h.lastFirst_next c
  within := fun _ _ => h.within_next c
  matching := h.matching_next c

end Step

theorem reads_read (apart : brackets.opening ≠ brackets.closing) (text : List Char) :
    brackets.Reads text (brackets.read text) := by
  induction text using List.reverseRecOn with
  | nil =>
      have none : ∀ start stop, ¬ brackets.ArePartners [] [] start stop := fun start stop partners => by
        simpa using partners.closing
      exact ⟨by simp [read], .nil, by simp [read], by simp [read, IsMatching, none]⟩
  | append_singleton text c ih =>
      rw [read_concat]
      exact ih.next c apart

/-! ## The pass and the reading -/

/-- What a pass keeps of a text is outside of its regions: of the whole text, and of the text up to each
    opening bracket that has no partner yet. -/
inductive Keeps (regions : List (Nat × Nat)) :
    List Char → List Nat → List Char → List (List Char) → Prop where
  | none {text current : List Char} (kept : current.reverse = outside regions text) :
      Keeps regions text [] current []
  | opened {text current before : List Char} {outer : List (List Char)} {start : Nat} {places : List Nat}
      (kept : (current ++ (before ++ outer.flatten)).reverse = outside regions text)
      (within : start ≤ text.length) :
      Keeps regions (text.take start) places before outer →
      Keeps regions text (start :: places) current (before :: outer)

section Pass

variable {regions : List (Nat × Nat)} {places : List Nat} {current : List Char}
  {outer : List (List Char)}

theorem Keeps.kept (h : Keeps regions text places current outer) :
    (current ++ outer.flatten).reverse = outside regions text := by
  cases h with
  | none kept => simpa using kept
  | opened kept within earlier => simpa using kept

theorem Keeps.congr (h : Keeps regions text places current outer) {others : List (Nat × Nat)}
    (same : ∀ place < text.length, covers regions place = covers others place) :
    Keeps others text places current outer := by
  induction h with
  | none kept => exact .none (kept.trans (outside_congr same))
  | opened kept within _ ih =>
      refine .opened (kept.trans (outside_congr same)) within (ih fun place before => same place ?_)
      exact Nat.lt_of_lt_of_le before (List.length_take_le' _ _)

theorem Keeps.append (h : Keeps regions text places current outer) {more now : List Char}
    (kept : (now ++ outer.flatten).reverse = outside regions (text ++ more)) :
    Keeps regions (text ++ more) places now outer := by
  cases h with
  | none => exact .none (by simpa using kept)
  | opened _ within earlier =>
      refine .opened (by simpa using kept) (by rw [List.length_append]; omega) ?_
      rwa [List.take_append_of_le_length within]

theorem Keeps.concat (h : Keeps regions text places current outer)
    (new : covers regions text.length = false) (c : Char) :
    Keeps regions (text ++ [c]) places (c :: current) outer := by
  refine h.append ?_
  rw [outside_concat, new, ← h.kept]
  simp

theorem Keeps.opening (h : Keeps regions text places current outer)
    (new : covers regions text.length = false) (c : Char) :
    Keeps regions (text ++ [c]) (text.length :: places) [c] (current :: outer) := by
  refine .opened ?_ (by simp) ?_
  · rw [outside_concat, new, ← h.kept]
    simp
  · rwa [List.take_left]

theorem Keeps.closing {before : List Char} {start : Nat}
    (h : Keeps regions text (start :: places) current (before :: outer)) (c : Char) :
    Keeps ((start, text.length) :: regions) (text ++ [c]) places before outer := by
  obtain - | ⟨-, within, earlier⟩ := h
  have length : (text.take start).length = start := List.length_take_of_le within
  have same : ∀ place < (text.take start).length,
      covers regions place = covers ((start, text.length) :: regions) place := by
    intro place early
    rw [length] at early
    simp [covers, Nat.not_le.mpr early]
  have cut : text ++ [c] = text.take start ++ (text.drop start ++ [c]) := by
    rw [← List.append_assoc, List.take_append_drop]
  have kept := (earlier.congr same).kept
  rw [cut]
  refine (earlier.congr same).append (kept.trans (outside_of_covered _ fun place behind upTo => ?_).symm)
  rw [← List.length_append, ← cut, List.length_append, List.length_singleton] at upTo
  rw [length] at behind
  simp [covers, behind, Nat.le_of_lt_succ upTo]

end Pass

theorem Reads.covers_length {reading : Reading} (h : brackets.Reads text reading) :
    covers reading.regions text.length = false := by
  refine List.any_eq_false.mpr fun (start, stop) member => ?_
  have before := h.within start stop member
  simp
  omega

theorem matchFrom_eq_outside (apart : brackets.opening ≠ brackets.closing) {current : List Char}
    {outer : List (List Char)} {rest : List Char}
    (h : Keeps (brackets.regions text) text (brackets.read text).opened current outer) :
    brackets.matchFrom current outer rest =
      outside (brackets.regions (text ++ rest)) (text ++ rest) := by
  have new : ∀ text, covers (brackets.regions text) text.length = false := fun text =>
    (reads_read apart text).covers_length
  fun_induction brackets.matchFrom current outer rest generalizing text with
  | case1 current outer => simpa using h.kept
  | case2 current rest ih =>
      cases opened : (brackets.read text).opened with
      | cons start places =>
          rw [opened] at h
          cases h
      | nil =>
          have same : brackets.read (text ++ [brackets.closing]) = brackets.read text := by
            simp [read_concat, Reading.next, opened]
          rw [List.append_cons]
          refine ih ?_
          rw [regions, same]
          exact h.concat (new text) brackets.closing
  | case3 current rest before outer ih =>
      cases opened : (brackets.read text).opened with
      | nil =>
          rw [opened] at h
          cases h
      | cons start places =>
          have next : brackets.read (text ++ [brackets.closing]) =
              ⟨places, (start, text.length) :: brackets.regions text⟩ := by
            simp [read_concat, Reading.next, opened, regions]
          rw [List.append_cons]
          refine ih ?_
          rw [regions, next]
          rw [opened] at h
          exact h.closing brackets.closing
  | case4 current outer rest notClosing ih =>
      have next : brackets.read (text ++ [brackets.opening]) =
          ⟨text.length :: (brackets.read text).opened, brackets.regions text⟩ := by
        simp [read_concat, Reading.next, apart, regions]
      rw [List.append_cons]
      refine ih ?_
      rw [regions, next]
      exact h.opening (new text) brackets.opening
  | case5 current outer c rest notClosing notOpening ih =>
      have same : brackets.read (text ++ [c]) = brackets.read text := by
        simp [read_concat, Reading.next, notClosing, notOpening]
      rw [List.append_cons]
      refine ih ?_
      rw [regions, same]
      exact h.concat (new text) c

/-- What is left in the end is what stands outside of the regions. -/
theorem strip_eq_outside (apart : brackets.opening ≠ brackets.closing) (text : List Char) :
    brackets.strip text = outside (brackets.regions text) text := by
  have nothing : Keeps (brackets.regions []) [] (brackets.read []).opened [] [] := .none rfl
  rw [strip_eq_unmatched apart]
  exact matchFrom_eq_outside apart nothing

/-- No other regions are those from an opening bracket to its partner: which partner a closing bracket
    has depends on the partners of the brackets before it. -/
theorem isMatching_iff (apart : brackets.opening ≠ brackets.closing) {regions : List (Nat × Nat)} :
    brackets.IsMatching text regions ↔
      ∀ start stop, (start, stop) ∈ regions ↔ (start, stop) ∈ brackets.regions text := by
  have matching := (reads_read apart text).matching
  constructor
  · intro h start stop
    induction stop using Nat.strong_induction_on generalizing start with
    | _ stop ih =>
        rw [h start stop]
        refine (arePartners_congr (fun _ _ => rfl) fun start place before => ?_).trans
          (matching start stop).symm
        exact (ih place before start).symm
  · intro same start stop
    rw [same]
    exact (matching start stop).trans
      (arePartners_congr (fun _ _ => rfl) fun start place _ => same start place)

theorem exists_partner (apart : brackets.opening ≠ brackets.closing) {start stop : Nat}
    (closing : text[stop]? = some brackets.closing)
    (free : brackets.IsFree text (brackets.regions text) start stop) :
    ∃ nearest, (nearest, stop) ∈ brackets.regions text := by
  classical
  have upTo : start ≤ stop := Nat.le_of_lt free.before
  have nearest := Nat.findGreatest_spec
    (P := fun place => brackets.IsFree text (brackets.regions text) place stop) upTo free
  refine ⟨_, ((reads_read apart text).matching _ stop).mpr ⟨closing, nearest, ?_⟩⟩
  intro between behind also
  exact Nat.findGreatest_is_greatest behind (Nat.le_of_lt also.before) also

theorem covers_eq_false (apart : brackets.opening ≠ brackets.closing) {place : Nat}
    (isBracket : text[place]? = some brackets.opening ∨ text[place]? = some brackets.closing)
    (alone : ∀ other,
      (place, other) ∉ brackets.regions text ∧ (other, place) ∉ brackets.regions text) :
    covers (brackets.regions text) place = false := by
  refine List.any_eq_false.mpr fun (start, stop) member covered => ?_
  simp only [Bool.and_eq_true, decide_eq_true_iff] at covered
  have behind : start < place := Nat.lt_of_le_of_ne covered.1 fun same => (alone stop).1 (same ▸ member)
  have before : place < stop := Nat.lt_of_le_of_ne covered.2 fun same => (alone start).2 (same ▸ member)
  have outer := ((reads_read apart text).matching start stop).mp member
  rcases isBracket with opening | closing
  · exact outer.nearest place behind ⟨before, opening, fun other _ => (alone other).1⟩
  · obtain ⟨nearest, found⟩ := exists_partner apart closing ⟨behind, outer.free.opening,
      fun other earlier => outer.free.alone other (Nat.lt_trans earlier before)⟩
    exact (alone nearest).2 found

theorem apart_of_kinds (kind : brackets ∈ kinds) : brackets.opening ≠ brackets.closing := by
  revert brackets
  decide

/-- The rounds for a kind of brackets come to an end and leave the text without its regions. These are
    the only ones in which each closing bracket is matched with the nearest opening one before it that
    is free, and brackets that are not matched stay. Nothing more can be taken out, not even after
    brackets of other kinds have been taken out of what is left. -/
theorem strip_regionwise (kind : brackets ∈ kinds) (text : List Char) :
    (∃ rounds, 2 * rounds ≤ text.length ∧ brackets.EndsAfter text (brackets.strip text) rounds) ∧
      brackets.strip text = outside (brackets.regions text) text ∧
      (∀ regions, brackets.IsMatching text regions ↔
        ∀ start stop, (start, stop) ∈ regions ↔ (start, stop) ∈ brackets.regions text) ∧
      (∀ place, (text[place]? = some brackets.opening ∨ text[place]? = some brackets.closing) →
        (∀ other, (place, other) ∉ brackets.regions text ∧ (other, place) ∉ brackets.regions text) →
        covers (brackets.regions text) place = false) ∧
      ¬ brackets.HasInnermost (brackets.strip text) ∧
      ∀ others, ¬ brackets.HasInnermost (stripEach others (brackets.strip text)) := by
  have apart := apart_of_kinds kind
  refine ⟨exists_endsAfter brackets text, strip_eq_outside apart text, fun _ => isMatching_iff apart,
    fun _ => covers_eq_false apart, not_hasInnermost_strip brackets text, fun others => ?_⟩
  exact not_hasInnermost_stripEach_strip brackets others text

/-- Brackets without a partner before, between and behind the regions, and brackets of other kinds
    across them. -/
theorem strip_strayAngles :
    angle ∈ kinds ∧ angle.IsMatching "x>(<y<[z>>]<)<".toList [(3, 9), (5, 8)] ∧
      angle.strip "x>(<y<[z>>]<)<".toList = "x>(]<)<".toList ∧
      ¬ angle.HasInnermost (stripEach [round, square, grave] "x>(]<)<".toList) := by
  have kind : angle ∈ kinds := by decide
  have found : angle.regions "x>(<y<[z>>]<)<".toList = [(3, 9), (5, 8)] := by decide
  obtain ⟨-, left, matching, -, -, others⟩ := strip_regionwise kind "x>(<y<[z>>]<)<".toList
  have stays : angle.strip "x>(<y<[z>>]<)<".toList = "x>(]<)<".toList := by
    rw [left, found]
    decide
  refine ⟨kind, (matching _).mpr fun start stop => by rw [found], stays, ?_⟩
  rw [← stays]
  exact others [round, square, grave]

end Brackets

/-- Of a signature without its brackets no part in brackets is left, of whatever kind. -/
theorem not_hasInnermost_stripBrackets {brackets : Brackets} (kind : brackets ∈ Brackets.kinds)
    (text : List Char) : ¬ brackets.HasInnermost (stripBrackets text) := by
  rw [Brackets.stripBrackets_eq_stripEach]
  exact Brackets.not_hasInnermost_stripEach kind text

end SymbolCorpus
