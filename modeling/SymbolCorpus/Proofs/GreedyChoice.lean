import SymbolCorpus.Proofs.ExtractionRuns
import SymbolCorpus.Proofs.LastGiven
import SymbolCorpus.Proofs.Ranges
import SymbolCorpus.Proofs.Tokens

/-! # The greedy choice of functions

Functions are met in the order of their ranges. One is kept when everything about
the function itself allows it and it overlaps none that was kept before, so a
function that fails for a reason of its own stands in nobody's way. Every kept
function gets a record. Two records get in each other's way in the file exactly
when their functions have one range, which then ends before it begins.
-/

namespace SymbolCorpus

open PseudoCode

theorem tokenize_total (segmenter : Identifier.Segmenter) (options : TokenOptions) (text : List Char) :
    ∃ tokens, tokenize segmenter options text = .ok tokens := by
  obtain ⟨lexemes, tokens, run, rendered⟩ := exists_rendering segmenter options text
  exact ⟨tokens, (tokenize_of_lex run).trans rendered⟩

/-! ## What is wanted and what becomes of it -/

namespace ExtractionContext

/-- Everything about the function itself allows it to be kept. -/
structure Wants (context : ExtractionContext) (function : DumpFunction) : Prop where
  enclosed : context.textSection.encloses function.range = true
  named : function.range.first ∈ context.names
  analysed : function.isSkipped = false
  decompiled : function.pseudoCode.isSome = true

instance (context : ExtractionContext) : DecidablePred context.Wants := fun function =>
  decidable_of_iff
    (context.textSection.encloses function.range = true ∧ function.range.first ∈ context.names ∧
      function.isSkipped = false ∧ function.pseudoCode.isSome = true)
    ⟨fun ⟨enclosed, named, analysed, decompiled⟩ => ⟨enclosed, named, analysed, decompiled⟩,
      fun wants => ⟨wants.enclosed, wants.named, wants.analysed, wants.decompiled⟩⟩

/-- The record of a function under the key of its range, with the name that the name map has for it
    and what is built from its representations. -/
structure Records (context : ExtractionContext) (function : DumpFunction) (record : Record) : Prop where
  start : record.start = function.range.first
  address : record.address = function.range.key
  name : context.names.find? function.range.first = some record.name
  built : ∃ text, function.pseudoCode = some text ∧
    context.build? function record.name text = some record

variable {context : ExtractionContext} {function : DumpFunction}

theorem build?_total (context : ExtractionContext) (function : DumpFunction) (name text : String) :
    ∃ record, context.build? function name text = some record ∧
      record.start = function.range.first ∧ record.address = function.range.key ∧
      record.name = name := by
  obtain ⟨tokens, run⟩ := tokenize_total context.segmenter context.settings.tokenOptions
    (context.masked function.range.first name text.toList)
  unfold build?
  dsimp only
  rw [run]
  exact ⟨_, rfl, rfl, rfl, rfl⟩

theorem wants_of_candidate? {record : Record} (h : context.candidate? function = some record) :
    context.Wants function ∧ context.Records function record := by
  obtain ⟨name, named, h⟩ := Option.bind_eq_some_iff.mp h
  obtain ⟨text, decompiled, h⟩ := Option.bind_eq_some_iff.mp h
  split at h
  · next allowed =>
      simp only [Bool.and_eq_true, Bool.not_eq_true'] at allowed
      obtain ⟨other, built, start, address, same⟩ := context.build?_total function name text
      rw [built, Option.some.injEq] at h
      subst h
      constructor
      · refine ⟨allowed.1, ?_, allowed.2, by rw [decompiled]; rfl⟩
        rw [Std.TreeMap.mem_iff_isSome_getElem?]
        exact Option.isSome_of_eq_some named
      · exact ⟨start, address, same ▸ named, text, decompiled, same ▸ built⟩
  · cases h

theorem exists_candidate?_iff :
    (∃ record, context.candidate? function = some record) ↔ context.Wants function := by
  constructor
  · rintro ⟨record, h⟩
    exact (wants_of_candidate? h).1
  · intro wants
    obtain ⟨text, decompiled⟩ := Option.isSome_iff_exists.mp wants.decompiled
    obtain ⟨name, named⟩ := Option.isSome_iff_exists.mp
      (Std.TreeMap.mem_iff_isSome_getElem?.mp wants.named)
    obtain ⟨record, built, -⟩ := context.build?_total function name text
    refine ⟨record, ?_⟩
    have found : context.names.find? function.range.first = some name := named
    simp [candidate?, found, decompiled, wants.enclosed, wants.analysed, built]

end ExtractionContext

/-! ## The scan -/

/-- What is kept of functions that are met in order. A function is kept exactly when it is wanted and
    overlaps none that was kept before it. -/
inductive Kept (wanted : DumpFunction → Prop) : List DumpFunction → List DumpFunction → Prop where
  | nil : Kept wanted [] []
  | keep {met kept : List DumpFunction} {function : DumpFunction} : Kept wanted met kept →
      wanted function → (∀ earlier ∈ kept, earlier.range.overlaps function.range = false) →
      Kept wanted (met ++ [function]) (kept ++ [function])
  | pass {met kept : List DumpFunction} {function : DumpFunction} : Kept wanted met kept →
      (wanted function → ∃ earlier ∈ kept, earlier.range.overlaps function.range = true) →
      Kept wanted (met ++ [function]) kept

namespace Kept

variable {wanted : DumpFunction → Prop} {met kept : List DumpFunction}

theorem wanted_of_mem (h : Kept wanted met kept) {function : DumpFunction} (member : function ∈ kept) :
    wanted function := by
  induction h with
  | nil => cases member
  | keep _ wants _ ih =>
      rcases List.mem_append.mp member with before | here
      · exact ih before
      · exact List.mem_singleton.mp here ▸ wants
  | pass _ _ ih => exact ih member

theorem sublist (h : Kept wanted met kept) : kept.Sublist met := by
  induction h with
  | nil => exact .slnil
  | keep _ _ _ ih => exact ih.append (List.Sublist.refl _)
  | pass _ _ ih => exact ih.trans (List.sublist_append_left _ _)

theorem of_append {function : DumpFunction} (h : Kept wanted (met ++ [function]) kept) :
    ∃ before, Kept wanted met before ∧
      ((wanted function ∧ (∀ earlier ∈ before, earlier.range.overlaps function.range = false) ∧
          kept = before ++ [function]) ∨
        ((wanted function → ∃ earlier ∈ before, earlier.range.overlaps function.range = true) ∧
          kept = before)) := by
  generalize whole : met ++ [function] = all at h
  cases h with
  | nil => simp at whole
  | keep scanned wants free =>
      obtain ⟨rfl, last⟩ := List.append_inj' whole rfl
      cases last
      exact ⟨_, scanned, .inl ⟨wants, free, rfl⟩⟩
  | pass scanned blocked =>
      obtain ⟨rfl, last⟩ := List.append_inj' whole rfl
      cases last
      exact ⟨_, scanned, .inr ⟨blocked, rfl⟩⟩

theorem unique (h : Kept wanted met kept) {other : List DumpFunction} (h' : Kept wanted met other) :
    kept = other := by
  -- What the other scan did with the function met last is read off, and the ranges kept before are the
  -- same by induction, so both scans had the same reason to keep it or to pass it over.
  induction h generalizing other with
  | nil =>
      have nothing := h'.sublist
      exact (List.sublist_nil.mp nothing).symm
  | keep _ wants free ih =>
      obtain ⟨before, scanned, ⟨-, -, rfl⟩ | ⟨blocked, rfl⟩⟩ := h'.of_append
      · rw [ih scanned]
      · obtain rfl := ih scanned
        obtain ⟨earlier, member, overlaps⟩ := blocked wants
        rw [free earlier member] at overlaps
        cases overlaps
  | pass _ blocked ih =>
      obtain ⟨before, scanned, ⟨wants, free, rfl⟩ | ⟨-, rfl⟩⟩ := h'.of_append
      · obtain rfl := ih scanned
        obtain ⟨earlier, member, overlaps⟩ := blocked wants
        rw [free earlier member] at overlaps
        cases overlaps
      · exact ih scanned

theorem apart (h : Kept wanted met kept) :
    kept.Pairwise fun function other => function.range.overlaps other.range = false := by
  induction h with
  | nil => exact .nil
  | keep _ _ free ih =>
      rw [List.pairwise_append]
      refine ⟨ih, List.pairwise_singleton _ _, fun earlier member function last => ?_⟩
      exact List.mem_singleton.mp last ▸ free earlier member
  | pass _ _ ih => exact ih

theorem filter [DecidablePred wanted] (h : Kept wanted met kept) :
    Kept wanted (met.filter (wanted ·)) kept := by
  induction h with
  | nil => exact .nil
  | keep _ wants free ih =>
      rw [List.filter_append, List.filter_singleton, decide_eq_true wants]
      exact .keep ih wants free
  | @pass _ _ function _ blocked ih =>
      rw [List.filter_append, List.filter_singleton]
      by_cases wants : wanted function
      · rw [decide_eq_true wants]
        exact .pass ih blocked
      · rw [decide_eq_false wants]
        simpa using ih

/-- Two kept functions of one range have a range that ends before it begins. -/
theorem inverted_of_same_range (h : Kept wanted met kept) :
    kept.Pairwise fun function other =>
      function.range = other.range → function.range.last < function.range.first := by
  refine h.apart.imp fun {function other} apart same => ?_
  rw [← same, AddressRange.overlaps_self, decide_eq_false_iff_not] at apart
  exact UInt64.not_le.mp apart

end Kept

/-- The scan keeps functions as it should, whatever it has kept before, and every kept function
    leaves its own record. -/
theorem scanRecords_kept {context : ExtractionContext} {met kept : List DumpFunction}
    (h : Kept context.Wants met kept) {retained : List AddressRange}
    (retains : ∀ range, retained.any (·.overlaps range) = kept.any (·.range.overlaps range))
    (functions : List DumpFunction) :
    ∃ more, Kept context.Wants (met ++ functions) (kept ++ more) ∧
      List.Forall₂ context.Records more (scanRecords context.candidate? retained functions) := by
  -- The scan has its retained ranges in reverse; all that is asked of them is what they overlap.
  induction functions generalizing met kept retained with
  | nil => exact ⟨[], by simpa using h, .nil⟩
  | cons function rest ih =>
      rw [scanRecords, retains]
      split
      · next blocked =>
          obtain ⟨more, scanned, built⟩ := ih (h.pass fun _ => List.any_eq_true.mp blocked) retains
          exact ⟨more, by simpa using scanned, built⟩
      · next free =>
          rw [List.any_eq_true, not_exists] at free
          split
          · next none =>
              have unwanted : ¬ context.Wants function := by
                rw [← ExtractionContext.exists_candidate?_iff, none]
                simp
              obtain ⟨more, scanned, built⟩ :=
                ih (h.pass fun wants => absurd wants unwanted) retains
              exact ⟨more, by simpa using scanned, built⟩
          · next record own =>
              obtain ⟨wants, records⟩ := ExtractionContext.wants_of_candidate? own
              have scannedHere := h.keep wants fun earlier member =>
                Bool.eq_false_iff.mpr fun overlaps => free earlier ⟨member, overlaps⟩
              have retainsHere : ∀ range, (function.range :: retained).any (·.overlaps range) =
                  (kept ++ [function]).any (·.range.overlaps range) := by
                intro range
                simp [retains, Bool.or_comm]
              obtain ⟨more, scanned, built⟩ := ih scannedHere retainsHere
              exact ⟨function :: more, by simpa using scanned, .cons records built⟩

/-! ## The order of the scan -/

theorem AddressRange.precedes_trans {first second third : AddressRange}
    (h : first.precedes second = true) (h' : second.precedes third = true) :
    first.precedes third = true := by
  simp only [AddressRange.precedes, Bool.or_eq_true, Bool.and_eq_true, decide_eq_true_eq,
    UInt64.lt_iff_toNat_lt, UInt64.le_iff_toNat_le, ← UInt64.toNat_inj] at *
  omega

theorem AddressRange.precedes_total (range other : AddressRange) :
    (range.precedes other || other.precedes range) = true := by
  simp only [AddressRange.precedes, Bool.or_eq_true, Bool.and_eq_true, decide_eq_true_eq,
    UInt64.lt_iff_toNat_lt, UInt64.le_iff_toNat_le, ← UInt64.toNat_inj]
  omega

theorem scanOrder_perm (functions : List DumpFunction) : (scanOrder functions).Perm functions :=
  List.mergeSort_perm functions _

theorem scanOrder_sorted (functions : List DumpFunction) :
    (scanOrder functions).Pairwise fun function other =>
      function.range.precedes other.range = true := by
  apply List.pairwise_mergeSort
  · intro first second third
    exact AddressRange.precedes_trans
  · intro function other
    exact AddressRange.precedes_total function.range other.range

theorem scanOrder_of_sorted {functions : List DumpFunction}
    (h : functions.Pairwise fun function other => function.range.precedes other.range = true) :
    scanOrder functions = functions :=
  List.mergeSort_of_pairwise h

/-! ## The records of a dump -/

/-- The functions of a dump that are kept, their records in the order of the scan, and the map that
    these make; of several records with one key the last one is in the map. -/
structure Selected (context : ExtractionContext) (functions kept : List DumpFunction)
    (written : List Record) (records : RecordMap) : Prop where
  scanned : Kept context.Wants (scanOrder functions) kept
  built : List.Forall₂ context.Records kept written
  stored : ∀ key, records[key]? =
    lastGiven? key (written.map fun record => (record.address, record))

namespace Selected

variable {context : ExtractionContext} {functions kept : List DumpFunction} {written : List Record}
  {records : RecordMap}

theorem exists_function (selected : Selected context functions kept written records) {record : Record}
    (member : record ∈ written) : ∃ function ∈ kept, context.Records function record :=
  exists_of_mem_forall₂ selected.built.flip member

theorem keys_eq (selected : Selected context functions kept written records) :
    (written.map fun record => (record.address, record)).map Prod.fst =
      kept.map (·.range.key) := by
  have built := selected.built
  clear selected
  induction built with
  | nil => rfl
  | cons records _ ih =>
      rw [List.map_cons, List.map_cons, ih, List.map_cons, records.address]

/-- Every record has an entry of its own exactly when no two functions have one range. -/
theorem toList_perm_iff (selected : Selected context functions kept written records) :
    records.toList.Perm (written.map fun record => (record.address, record)) ↔
      (kept.map (·.range)).Nodup := by
  have keys : kept.map (·.range.key) = (kept.map (·.range)).map (·.key) := by simp
  rw [RecordMap.toList_perm_iff selected.stored, selected.keys_eq, keys,
    List.nodup_map_iff fun _ _ => AddressRange.key_injective]

theorem size_eq (selected : Selected context functions kept written records) :
    records.size = (kept.map (·.range)).dedup.length := by
  have keys : kept.map (·.range.key) = (kept.map (·.range)).map (·.key) := by simp
  rw [RecordMap.size_eq selected.stored, selected.keys_eq, keys,
    List.dedup_map_of_injective fun _ _ => AddressRange.key_injective, List.length_map]

theorem kept_eq (selected : Selected context functions kept written records)
    (sorted : functions.Pairwise fun function other => function.range.precedes other.range = true)
    {others : List DumpFunction} (scanned : Kept context.Wants functions others) : kept = others := by
  have scannedHere := selected.scanned
  rw [scanOrder_of_sorted sorted] at scannedHere
  exact scannedHere.unique scanned

theorem size_le (selected : Selected context functions kept written records) :
    records.size ≤ functions.length := by
  calc records.size = (kept.map (·.range)).dedup.length := selected.size_eq
    _ ≤ (kept.map (·.range)).length := (List.dedup_sublist _).length_le
    _ = kept.length := List.length_map _
    _ ≤ (scanOrder functions).length := selected.scanned.sublist.length_le
    _ = functions.length := (scanOrder_perm functions).length_eq

end Selected

theorem exists_selected (context : ExtractionContext) (functions : List DumpFunction) :
    ∃ kept written, Selected context functions kept written (selectRecords context functions) := by
  have start : Kept context.Wants [] [] := .nil
  have nothing : ∀ range, ([] : List AddressRange).any (·.overlaps range) =
      ([] : List DumpFunction).any (·.range.overlaps range) := fun _ => rfl
  obtain ⟨kept, scanned, built⟩ := scanRecords_kept start nothing (scanOrder functions)
  rw [List.nil_append, List.nil_append] at scanned
  exact ⟨kept, _, scanned, built, RecordMap.getElem?_ofPairs _⟩

theorem exists_function_of_selected {context : ExtractionContext} {functions : List DumpFunction}
    {key : String} {record : Record} (h : (selectRecords context functions)[key]? = some record) :
    ∃ function, context.Records function record := by
  obtain ⟨kept, written, selected⟩ := exists_selected context functions
  rw [selected.stored] at h
  obtain ⟨record, member, same⟩ := List.mem_map.mp (mem_of_lastGiven? h)
  cases same
  obtain ⟨function, -, records⟩ := selected.exists_function member
  exact ⟨function, records⟩

/-! ## Extraction -/

section

variable {extractor : Extractor} {disk : Disk} {binary : String} {entries : List (String × Address)}
  {dump : Dump} {textSection : AddressRange}

/-- Extraction keeps exactly the functions of the greedy choice: those that are wanted and overlap
    none kept before them in the order of ranges, whatever stands between them. The file has one
    record for each of them under the key of its range exactly when no two have one range; those of
    one range end before they begin, and only the record of the last of them stays. -/
theorem extract_greedy (reads : extractor.Reads disk binary entries dump)
    (here : dump.textSection = some textSection) :
    (scanOrder dump.functions).Perm dump.functions ∧
    (scanOrder dump.functions).Pairwise
      (fun function other => function.range.precedes other.range = true) ∧
    ∃ kept written records skipped,
      Selected (extractor.context entries textSection dump) dump.functions kept written records ∧
      Kept (extractor.context entries textSection dump).Wants
        ((scanOrder dump.functions).filter
          ((extractor.context entries textSection dump).Wants ·)) kept ∧
      kept.Pairwise (fun function other => function.range.overlaps other.range = false) ∧
      (records.toList.Perm (written.map fun record => (record.address, record)) ↔
        (kept.map (·.range)).Nodup) ∧
      kept.Pairwise (fun function other =>
        function.range = other.range → function.range.last < function.range.first) ∧
      records.size + skipped = dump.functions.length ∧
      extractor.Stores disk binary records skipped := by
  refine ⟨scanOrder_perm _, scanOrder_sorted _, ?_⟩
  obtain ⟨kept, written, selected⟩ :=
    exists_selected (extractor.context entries textSection dump) dump.functions
  have counted := Nat.add_sub_cancel' selected.size_le
  refine ⟨kept, written, _, _, selected, selected.scanned.filter, selected.scanned.apart,
    selected.toList_perm_iff, selected.scanned.inverted_of_same_range, counted, ?_⟩
  exact reads.stores here rfl counted

end

/-- A function whose range ends before it begins, with its pseudo-C. -/
def invertedFunction (text : String) : DumpFunction := ⟨⟨10, 5⟩, false, ⟨[], [], []⟩, some text⟩

/-- The dump of two functions of one such range. -/
def twinDump : Dump := ⟨some ⟨0, 50⟩, [], [invertedFunction "x", invertedFunction "y"]⟩

def twinDisk : Disk :=
  .ofBinary "prog" "\x7b\"alpha\": [10, 5]\x7d"
    "[[0, 50], [], [[10, 5, false, [], [], [], \"x\"], [10, 5, false, [], [], [], \"y\"]]]"

theorem reads_twinDisk : Extractor.standard.Reads twinDisk "prog" [("alpha", 10)] twinDump :=
  Extractor.reads_ofBinary (by decide +kernel) (by decide +kernel)

/-- Two functions of one inverted range are both kept, and one record is left of them. -/
theorem not_oneEach_twins :
    Extractor.standard.Reads twinDisk "prog" [("alpha", 10)] twinDump ∧
      twinDump.textSection = some ⟨0, 50⟩ ∧
      ∃ written records,
        Selected (Extractor.standard.context [("alpha", 10)] ⟨0, 50⟩ twinDump) twinDump.functions
          twinDump.functions written records ∧
        ¬ records.toList.Perm (written.map fun record => (record.address, record)) ∧
        Extractor.standard.Stores twinDisk "prog" records 1 := by
  have here : twinDump.textSection = some ⟨0, 50⟩ := rfl
  have wants : ∀ function ∈ twinDump.functions,
      (Extractor.standard.context [("alpha", 10)] ⟨0, 50⟩ twinDump).Wants function := by
    decide +kernel
  obtain ⟨-, -, kept, written, records, skipped, selected, -, -, oneEach, -, counted, stores⟩ :=
    extract_greedy reads_twinDisk here
  have both : Kept (Extractor.standard.context [("alpha", 10)] ⟨0, 50⟩ twinDump).Wants
      twinDump.functions twinDump.functions :=
    .keep (.keep .nil (wants _ (by decide)) (by decide)) (wants _ (by decide)) (by decide)
  obtain rfl := selected.kept_eq (by decide) both
  have size := selected.size_eq
  have one : (twinDump.functions.map (·.range)).dedup.length = 1 := by decide
  have two : twinDump.functions.length = 2 := rfl
  obtain rfl : skipped = 1 := by omega
  refine ⟨reads_twinDisk, here, written, records, selected, ?_, stores⟩
  rw [oneEach]
  decide

end SymbolCorpus
