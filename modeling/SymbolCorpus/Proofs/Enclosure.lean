import SymbolCorpus.Proofs.GreedyChoice

/-! # Records inside the section

Whether a function lies in the section of code is asked of the ends of its range
only, and whether two functions get in each other's way as well. So a range that
ends before it begins may begin behind the section, or share its key with another
one. For ranges that are given in order neither can happen.
-/

namespace SymbolCorpus

/-- Every record in the file starts in the section, and every record that was built has an entry of
    its own. -/
structure Contained (textSection : AddressRange) (written : List Record) (records : RecordMap) :
    Prop where
  inside : ∀ record ∈ RecordMap.records records, textSection.contains record.start = true
  own : records.toList.Perm (written.map fun record => (record.address, record))

namespace Selected

variable {context : ExtractionContext} {functions kept : List DumpFunction} {written : List Record}
  {records : RecordMap}

theorem exists_function_of_mem_records (selected : Selected context functions kept written records)
    {record : Record} (member : record ∈ RecordMap.records records) :
    ∃ function ∈ kept, context.Records function record := by
  obtain ⟨⟨key, other⟩, inFile, rfl⟩ := List.mem_map.mp member
  rw [Std.TreeMap.mem_toList_iff_getElem?_eq_some, selected.stored] at inFile
  obtain ⟨found, inWritten, same⟩ := List.mem_map.mp (mem_of_lastGiven? inFile)
  cases same
  exact selected.exists_function inWritten

/-- Some record starts where a kept function starts, be it that of a later function of its range. -/
theorem exists_record (selected : Selected context functions kept written records)
    {function : DumpFunction} (member : function ∈ kept) :
    ∃ record ∈ RecordMap.records records, record.start = function.range.first := by
  have key : function.range.key ∈
      (written.map fun record => (record.address, record)).map Prod.fst := by
    rw [selected.keys_eq]
    exact List.mem_map.mpr ⟨function, member, rfl⟩
  obtain ⟨record, found⟩ := Option.isSome_iff_exists.mp ((isSome_lastGiven? _ _).mpr key)
  obtain ⟨built, inWritten, same⟩ := List.mem_map.mp (mem_of_lastGiven? found)
  obtain ⟨other, -, ofOther⟩ := selected.exists_function inWritten
  have address := (Prod.mk.inj same).1
  obtain rfl := (Prod.mk.inj same).2
  have ranges := AddressRange.key_injective (ofOther.address.symm.trans address)
  refine ⟨built, ?_, ofOther.start.trans (congrArg AddressRange.first ranges)⟩
  rw [← selected.stored, ← Std.TreeMap.mem_toList_iff_getElem?_eq_some] at found
  exact List.mem_map.mpr ⟨_, found, rfl⟩

theorem contained_iff (selected : Selected context functions kept written records) :
    Contained context.textSection written records ↔
      (∀ function ∈ kept, function.range.first ≤ context.textSection.last) ∧
        (kept.map (·.range)).Nodup := by
  have encloses {function : DumpFunction} (member : function ∈ kept) :=
    AddressRange.contains_first (selected.scanned.wanted_of_mem member).enclosed
  constructor
  · intro contained
    refine ⟨fun function member => ?_, selected.toList_perm_iff.mp contained.own⟩
    obtain ⟨record, inFile, start⟩ := selected.exists_record member
    have inside := contained.inside record inFile
    rwa [start, encloses member, decide_eq_true_eq] at inside
  · rintro ⟨begins, distinct⟩
    refine ⟨fun record inFile => ?_, selected.toList_perm_iff.mpr distinct⟩
    obtain ⟨function, member, built⟩ := selected.exists_function_of_mem_records inFile
    rw [built.start, encloses member, decide_eq_true_eq]
    exact begins function member

theorem contained_of_ordered (selected : Selected context functions kept written records)
    (ordered : ∀ function ∈ kept, function.range.first ≤ function.range.last) :
    Contained context.textSection written records := by
  refine selected.contained_iff.mpr ⟨fun function member => ?_, ?_⟩
  · have enclosed := (selected.scanned.wanted_of_mem member).enclosed
    have inside := AddressRange.contains_first_of_le enclosed (ordered function member)
    rwa [AddressRange.contains_first enclosed, decide_eq_true_eq] at inside
  · rw [List.Nodup, List.pairwise_map]
    refine selected.scanned.inverted_of_same_range.imp_of_mem fun {function _} member _ inverted => ?_
    intro same
    exact UInt64.not_lt.mpr (ordered function member) (inverted same)

end Selected

section

variable {extractor : Extractor} {disk : Disk} {binary : String} {entries : List (String × Address)}
  {dump : Dump} {textSection : AddressRange}

/-- The records of a binary start in its section and have an entry each exactly when no kept function
    begins behind the section's end and no two have one range. Functions whose ranges are given in
    order always comply. -/
theorem extract_contained_iff (reads : extractor.Reads disk binary entries dump)
    (here : dump.textSection = some textSection) :
    ∃ kept written records skipped,
      Selected (extractor.context entries textSection dump) dump.functions kept written records ∧
      extractor.Stores disk binary records skipped ∧
      (Contained textSection written records ↔
        (∀ function ∈ kept, function.range.first ≤ textSection.last) ∧
          (kept.map (·.range)).Nodup) ∧
      ((∀ function ∈ kept, function.range.first ≤ function.range.last) →
        Contained textSection written records) := by
  obtain ⟨kept, written, selected⟩ :=
    exists_selected (extractor.context entries textSection dump) dump.functions
  have counted := Nat.add_sub_cancel' selected.size_le
  exact ⟨kept, written, _, _, selected, reads.stores here rfl counted, selected.contained_iff,
    selected.contained_of_ordered⟩

end

/-- The dump of a function that ends in the section and begins behind it. -/
def strayDump : Dump := ⟨some ⟨0, 50⟩, [], [⟨⟨100, 5⟩, false, ⟨[], [], []⟩, some "x"⟩]⟩

def strayDisk : Disk :=
  .ofBinary "prog" "\x7b\"beta\": [100, 5]\x7d"
    "[[0, 50], [], [[100, 5, false, [], [], [], \"x\"]]]"

theorem reads_strayDisk : Extractor.standard.Reads strayDisk "prog" [("beta", 100)] strayDump :=
  Extractor.reads_ofBinary (by decide +kernel) (by decide +kernel)

/-- A function that begins behind the section is kept. -/
theorem not_contained_stray :
    Extractor.standard.Reads strayDisk "prog" [("beta", 100)] strayDump ∧
      strayDump.textSection = some ⟨0, 50⟩ ∧
      ∃ written records,
        Selected (Extractor.standard.context [("beta", 100)] ⟨0, 50⟩ strayDump) strayDump.functions
          strayDump.functions written records ∧
        ¬ Contained ⟨0, 50⟩ written records := by
  have wants : ∀ function ∈ strayDump.functions,
      (Extractor.standard.context [("beta", 100)] ⟨0, 50⟩ strayDump).Wants function := by
    decide +kernel
  obtain ⟨kept, written, records, skipped, selected, -, contained, -⟩ :=
    extract_contained_iff reads_strayDisk rfl
  have one : Kept (Extractor.standard.context [("beta", 100)] ⟨0, 50⟩ strayDump).Wants
      strayDump.functions strayDump.functions :=
    .keep .nil (wants _ (by decide)) (by decide)
  obtain rfl := selected.kept_eq (by decide) one
  refine ⟨reads_strayDisk, rfl, written, records, selected, ?_⟩
  rw [contained]
  decide

end SymbolCorpus
