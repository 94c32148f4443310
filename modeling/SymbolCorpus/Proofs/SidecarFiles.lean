import SymbolCorpus.Proofs.ExtractionRuns
import SymbolCorpus.Proofs.Siblings

/-! # Files beside two binaries

The records of a binary go to a file beside it. That is never the file of the records
or of the name map of another binary in its folder, but it may be that of its dump:
`prog.dump` counts as a binary, and the dump of `prog` is where its records go. For
all other names binaries do not get in each other's way.
-/

namespace SymbolCorpus

namespace Sidecar

/-- The ending that makes a binary out of another one whose dump is where its records go. -/
def collidingEnding : String := "dump"

theorem recordsFile_injective {path other : String} (h : recordsFile path = recordsFile other) :
    path = other := by
  have texts := congrArg String.toList h
  simp only [recordsFile, Path.withSuffix, String.toList_append] at texts
  exact String.toList_inj.mp (List.append_cancel_right (List.append_cancel_right texts))

theorem recordsFile_ne_nameMapFile (path other : String) : recordsFile path ≠ nameMapFile other := by
  intro h
  have ends := congrArg (fun text => text.toList.getLast?) h
  simp [recordsFile, nameMapFile, Path.withSuffix, recordsEnding, nameMapEnding] at ends

theorem recordsFile_withSuffix (path : String) :
    recordsFile (Path.withSuffix path collidingEnding) = dumpFile path := by
  have ending : "." ++ collidingEnding ++ "." ++ recordsEnding = "." ++ dumpEnding := by decide
  simp only [recordsFile, dumpFile, Path.withSuffix, String.append_assoc] at *
  rw [ending]

theorem recordsFile_eq_dumpFile_iff {path other : String} :
    recordsFile path = dumpFile other ↔ path = Path.withSuffix other collidingEnding := by
  rw [← recordsFile_withSuffix]
  exact ⟨recordsFile_injective, congrArg recordsFile⟩

theorem isSidecar_eq_false {disk : Disk} {path name : String} {folder : Place}
    (names : disk.Names path folder name) (ends : ('.' :: collidingEnding.toList) <:+ name.toList) :
    isSidecar path = false := by
  obtain ⟨before, whole⟩ := List.getLast?_eq_some_iff.mp names.last
  have named : Path.fileName? path = some name := by
    unfold Path.fileName?
    rw [whole, List.filter_append, List.filter_cons_of_pos (by simpa using names.notHere),
      List.filter_nil, List.getLast?_concat]
    simp [names.notAbove]
  have apart : ∀ ending ∈ endings, ¬ (('.' :: collidingEnding.toList) <:+ '.' :: ending.toList ∨
      ('.' :: ending.toList) <:+ '.' :: collidingEnding.toList) := by
    decide
  unfold isSidecar
  rw [named]
  dsimp only
  rw [List.any_eq_false]
  intro ending known short
  have nested := List.suffix_or_suffix_of_suffix ends (List.isSuffixOf_iff_suffix.mp short)
  exact apart ending known nested

end Sidecar

namespace Disk.Names

variable {disk : Disk} {path : String} {folder : Place} {name : String}

theorem recordsFile (names : disk.Names path folder name) :
    disk.Names (Sidecar.recordsFile path) folder (Sidecar.recordsFile name) :=
  names.withSuffix (by decide) (by decide)

theorem nameMapFile (names : disk.Names path folder name) :
    disk.Names (Sidecar.nameMapFile path) folder (Sidecar.nameMapFile name) :=
  names.withSuffix (by decide) (by decide)

theorem dumpFile (names : disk.Names path folder name) :
    disk.Names (Sidecar.dumpFile path) folder (Sidecar.dumpFile name) :=
  names.withSuffix (by decide) (by decide)

end Disk.Names

namespace Extractor

/-- Nothing is done for a binary because its records are there already. -/
def IsDone (extractor : Extractor) (disk : Disk) (binary : String) : Prop :=
  ∃ output, extractor.extract disk binary = (disk, .ok (.alreadyDone output))

/-- However extracting a binary ends, it leaves what a path leads to. -/
def Leaves (extractor : Extractor) (disk : Disk) (binary path : String) : Prop :=
  (extractor.extract disk binary).1.SameAt disk path

/-- Whether a binary is done does not depend on what is written to a path. -/
def Disregards (extractor : Extractor) (disk : Disk) (binary path : String) : Prop :=
  ∀ octets after, disk.write path octets = .ok after →
    (extractor.IsDone after binary ↔ extractor.IsDone disk binary)

variable {extractor : Extractor} {disk : Disk} {binary : String}

theorem isDone_iff : extractor.IsDone disk binary ↔
    extractor.force = false ∧ disk.isNonempty (Sidecar.recordsFile binary) = true := by
  constructor
  · rintro ⟨output, h⟩
    cases ends_of_extract h with
    | alreadyDone unforced present => exact ⟨unforced, present⟩
  · rintro ⟨unforced, present⟩
    exact ⟨Sidecar.recordsFile binary, by simp [extract, unforced, present]⟩

variable {other : String} {folder : Place} {name name' : String}

theorem leaves_of_ne (records : disk.Names (Sidecar.recordsFile binary) folder name)
    {path : String} (names : disk.Names path folder name') (apart : name' ≠ name) :
    extractor.Leaves disk binary path := by
  cases run : extractor.extract disk binary with
  | mk after ending =>
      rw [Leaves, run]
      cases ends_of_extract run with
      | alreadyDone | missingNameMap | noTextSection | failed => exact .refl disk path
      | extracted written => exact names.sameAt_write records apart written

theorem disregards_of_ne (records : disk.Names (Sidecar.recordsFile binary) folder name)
    {path : String} (names : disk.Names path folder name') (apart : name ≠ name') :
    extractor.Disregards disk binary path := by
  intro octets after written
  rw [isDone_iff, isDone_iff, (records.sameAt_write names apart written).isNonempty]

/-- Two binaries of one folder keep out of each other's files, and neither is taken for done because
    of files of the other, unless one is the other with the ending of a dump. Then its records go
    where the dump of the other is: any dump there is taken for its records, or is lost to them. -/
theorem extract_beside (extractor : Extractor) (names : disk.Names binary folder name)
    (names' : disk.Names other folder name') (differ : name ≠ name') :
    Sidecar.recordsFile name ≠ Sidecar.recordsFile name' ∧
    Sidecar.recordsFile name ≠ Sidecar.nameMapFile name' ∧
    (Sidecar.recordsFile name = Sidecar.dumpFile name' ↔
      name = Path.withSuffix name' Sidecar.collidingEnding) ∧
    extractor.Leaves disk binary (Sidecar.recordsFile other) ∧
    extractor.Leaves disk binary (Sidecar.nameMapFile other) ∧
    extractor.Disregards disk binary (Sidecar.nameMapFile other) ∧
    (name ≠ Path.withSuffix name' Sidecar.collidingEnding →
      extractor.Leaves disk binary (Sidecar.dumpFile other) ∧
      extractor.Disregards disk binary (Sidecar.dumpFile other)) ∧
    (binary = Path.withSuffix other Sidecar.collidingEnding →
      Sidecar.isSidecar binary = false ∧
      (extractor.IsDone disk binary ↔
        extractor.force = false ∧ disk.isNonempty (Sidecar.dumpFile other) = true) ∧
      ∀ functions skipped output after,
        extractor.extract disk binary = (after, .ok (.extracted functions skipped output)) →
        ∃ records : RecordMap, records.size = functions ∧
          after.readText (Sidecar.dumpFile other) =
            .ok ((RecordMap.toJson records).layOut 0)) := by
  have records := names.recordsFile
  have apartRecords : Sidecar.recordsFile name ≠ Sidecar.recordsFile name' :=
    fun same => differ (Sidecar.recordsFile_injective same)
  have apartNames := Sidecar.recordsFile_ne_nameMapFile name name'
  refine ⟨apartRecords, apartNames, Sidecar.recordsFile_eq_dumpFile_iff,
    leaves_of_ne records names'.recordsFile apartRecords.symm,
    leaves_of_ne records names'.nameMapFile apartNames.symm,
    disregards_of_ne records names'.nameMapFile apartNames, ?_, ?_⟩
  · intro other
    have apartDump : Sidecar.recordsFile name ≠ Sidecar.dumpFile name' :=
      fun same => other (Sidecar.recordsFile_eq_dumpFile_iff.mp same)
    exact ⟨leaves_of_ne records names'.dumpFile apartDump.symm,
      disregards_of_ne records names'.dumpFile apartDump⟩
  · rintro rfl
    have colliding := Sidecar.recordsFile_withSuffix other
    have longer : disk.Names (Path.withSuffix other Sidecar.collidingEnding) folder
        (Path.withSuffix name' Sidecar.collidingEnding) := names'.withSuffix (by decide) (by decide)
    refine ⟨Sidecar.isSidecar_eq_false longer ⟨name'.toList, by simp [Path.withSuffix]⟩, ?_, ?_⟩
    · rw [isDone_iff, colliding]
    · intro functions skipped output after h
      cases ends_of_extract h with
      | extracted written =>
          rw [colliding] at written
          obtain ⟨folder, name, opens, rfl⟩ := Disk.write_eq_ok written
          exact ⟨_, rfl, (opens.holds _).readText⟩

end Extractor

/-- Two binaries with their name maps and dumps, one named as the other with the colliding ending. -/
def sharedDisk : Disk :=
  let file (text : String) := FileTree.file (.octets (Text.toOctets text.toList))
  ⟨.folder
    [("prog.name_and_addr", file "\x7b\x7d"), ("prog.dump.json", file "[[0, 50]]"),
      ("prog.dump.name_and_addr", file "\x7b\x7d"), ("prog.dump.dump.json", file "[[0, 50]]")], []⟩

theorem names_prog : sharedDisk.Names "prog" [] "prog" where
  walked := eq_ok_of_toOption (by decide +kernel)
  last := by decide +kernel
  plain := by decide +kernel
  notHere := by decide
  notAbove := by decide
  folder := ⟨_, rfl⟩

theorem names_prog_dump : sharedDisk.Names "prog.dump" [] "prog.dump" := by
  have longer : "prog.dump" = Path.withSuffix "prog" Sidecar.collidingEnding := by decide
  rw [longer]
  exact names_prog.withSuffix (by decide) (by decide)

/-- Extraction that replaces records. -/
def Extractor.forced : Extractor := { Extractor.standard with force := true }

theorem reads_sharedDisk :
    Extractor.forced.Reads sharedDisk "prog.dump" [] ⟨some ⟨0, 50⟩, [], []⟩ where
  due := .inl rfl
  names := ⟨"\x7b\x7d".toList, eq_ok_of_toOption (by decide +kernel), by decide +kernel⟩
  dump := eq_ok_of_toOption (by decide +kernel)

/-- The dump of one binary keeps the other from being extracted, and is lost when that is forced. -/
theorem not_apart_prog_dump :
    sharedDisk.Names "prog.dump" [] "prog.dump" ∧ sharedDisk.Names "prog" [] "prog" ∧
      Sidecar.isSidecar "prog.dump" = false ∧ Sidecar.isSidecar "prog" = false ∧
      Extractor.standard.IsDone sharedDisk "prog.dump" ∧
      ∃ after, Extractor.forced.extract sharedDisk "prog.dump" =
          (after, .ok (.extracted 0 0 "prog.dump.json")) ∧
        ¬ after.SameAt sharedDisk (Sidecar.dumpFile "prog") := by
  have longer : "prog.dump" = Path.withSuffix "prog" Sidecar.collidingEnding := by decide
  have differ : "prog.dump" ≠ "prog" := by decide
  obtain ⟨-, -, -, -, -, -, -, colliding⟩ :=
    Extractor.extract_beside .standard names_prog_dump names_prog differ
  obtain ⟨binary, done, -⟩ := colliding longer
  refine ⟨names_prog_dump, names_prog, binary, by decide +kernel,
    done.mpr ⟨rfl, by decide +kernel⟩, ?_⟩
  have none : selectRecords (Extractor.forced.context [] ⟨0, 50⟩ ⟨some ⟨0, 50⟩, [], []⟩) [] = ∅ := by
    simp [selectRecords, scanOrder, scanRecords, RecordMap.ofPairs]
  have placed : sharedDisk.newPlace "prog.dump.json" = .ok ["prog.dump.json"] :=
    eq_ok_of_toOption (by decide +kernel)
  have counted : (∅ : RecordMap).size + 0 = 0 := rfl
  cases reads_sharedDisk.stores rfl none counted with
  | refused noPlace _ => cases noPlace.symm.trans placed
  | @stored after run text =>
      refine ⟨after, run, fun same => ?_⟩
      have dump : sharedDisk.readText (Sidecar.dumpFile "prog") = .ok "[[0, 50]]".toList :=
        eq_ok_of_toOption (by decide +kernel)
      rw [longer, Sidecar.recordsFile_withSuffix, same.readText, dump] at text
      have unlike : "[[0, 50]]".toList ≠ (RecordMap.toJson ∅).layOut 0 := by decide +kernel
      exact unlike (Except.ok.inj text)

end SymbolCorpus
