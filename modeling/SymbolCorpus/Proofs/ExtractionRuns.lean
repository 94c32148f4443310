import SymbolCorpus.Extraction.Extractor
import SymbolCorpus.Proofs.Writes

/-! # Runs of extraction

What a run of extraction comes to once it is due and what lies beside the binary
has been read. The records are selected from the dump, and whether they can be
stored depends on the disk alone and not on what they are. Nothing but the file
of the records is ever changed.
-/

namespace SymbolCorpus

theorem Disk.isFile_of_read {disk : Disk} {path : RawPath} {octets : ByteArray}
    (read : disk.read path = .ok octets) : disk.isFile path = true := by
  obtain ⟨place, located, read⟩ := bind_eq_ok read
  unfold Disk.isFile Disk.entry?
  rw [located]
  dsimp only
  split at read
  · next content found => rw [found]
  · cases read
  · cases read

theorem Disk.isFile_of_readText {disk : Disk} {path : RawPath} {text : List Char}
    (h : disk.readText path = .ok text) : disk.isFile path = true := by
  obtain ⟨octets, read, -⟩ := bind_eq_ok h
  exact isFile_of_read read

namespace Extractor

/-- Extraction is due, and these are the entries of the name map beside the binary, before names are
    filtered, and the dump of the host. -/
structure Reads (extractor : Extractor) (disk : Disk) (binary : String)
    (entries : List (String × Address)) (dump : Dump) : Prop where
  due : extractor.force = true ∨ disk.isNonempty (Sidecar.recordsFile binary) = false
  names : ∃ text, disk.readText (Sidecar.nameMapFile binary) = .ok text ∧
    (Json.read text).bind NameMap.entries? = some entries
  dump : extractor.host.load disk binary = .ok dump

/-- What the records of a dump are built from. -/
def context (extractor : Extractor) (entries : List (String × Address)) (textSection : AddressRange)
    (dump : Dump) : ExtractionContext :=
  .ofDump extractor.segmenter extractor.settings (.ofEntries extractor.nameFilter entries) textSection
    dump.symbols

/-- How an extraction ends, and the disk that it leaves. -/
inductive Ends (extractor : Extractor) (disk : Disk) (binary : String) :
    Disk → Except ExtractionError ExtractionOutcome → Prop where
  | alreadyDone : extractor.force = false →
      disk.isNonempty (Sidecar.recordsFile binary) = true →
      Ends extractor disk binary disk (.ok (.alreadyDone (Sidecar.recordsFile binary)))
  | missingNameMap : disk.isFile (Sidecar.nameMapFile binary) = false →
      Ends extractor disk binary disk (.ok (.missingNameMap (Sidecar.nameMapFile binary)))
  | noTextSection : Ends extractor disk binary disk (.ok .noTextSection)
  | extracted {records : RecordMap} {skipped : Nat} {after : Disk} :
      disk.writeText (Sidecar.recordsFile binary) ((RecordMap.toJson records).layOut 0) =
        .ok after →
      Ends extractor disk binary after
        (.ok (.extracted records.size skipped (Sidecar.recordsFile binary)))
  | failed {error : ExtractionError} : Ends extractor disk binary disk (.error error)

/-- The records are in their file and were counted, or there is no place for their file. -/
inductive Stores (extractor : Extractor) (disk : Disk) (binary : String) (records : RecordMap)
    (skipped : Nat) : Prop where
  | stored {after : Disk} :
      extractor.extract disk binary =
        (after, .ok (.extracted records.size skipped (Sidecar.recordsFile binary))) →
      after.readText (Sidecar.recordsFile binary) = .ok ((RecordMap.toJson records).layOut 0) →
      Stores extractor disk binary records skipped
  | refused {error : FileError} :
      disk.newPlace (Sidecar.recordsFile binary) = .error error →
      extractor.extract disk binary =
        (disk, .error (.unwritable (Sidecar.recordsFile binary) error)) →
      Stores extractor disk binary records skipped

variable {extractor : Extractor} {disk : Disk} {binary : String} {entries : List (String × Address)}
  {dump : Dump}

theorem writeRecords_cases (disk : Disk) (output : String) (records : RecordMap) (total : Nat) :
    (∃ after, disk.writeText output ((RecordMap.toJson records).layOut 0) = .ok after ∧
      writeRecords disk output records total =
        (after, .ok (.extracted records.size (total - records.size) output))) ∨
    ∃ error, disk.newPlace output = .error error ∧
      writeRecords disk output records total = (disk, .error (.unwritable output error)) := by
  unfold writeRecords
  cases placed : disk.newPlace output with
  | error error =>
      have unwritten (text : List Char) : disk.writeText output text = .error error := by
        rw [Disk.writeText, Disk.write, placed]
        rfl
      exact .inr ⟨error, rfl, by rw [unwritten]⟩
  | ok place =>
      have written (text : List Char) : disk.writeText output text =
          .ok (disk.putContent place (.octets (Text.toOctets text))) := by
        rw [Disk.writeText, Disk.write, placed]
        rfl
      exact .inl ⟨_, written _, by rw [written]⟩

theorem ends_of_extract {ending : Except ExtractionError ExtractionOutcome} {after : Disk}
    (h : extractor.extract disk binary = (after, ending)) :
    extractor.Ends disk binary after ending := by
  unfold extract at h
  dsimp only at h
  split at h
  · next done =>
      cases h
      simp only [Bool.and_eq_true, Bool.not_eq_true'] at done
      exact .alreadyDone done.1 done.2
  · split at h
    · next missing =>
        cases h
        exact .missingNameMap (by simpa using missing)
    · split at h
      · cases h
        exact .failed
      · next names loaded =>
          split at h
          · cases h
            exact .failed
          · next dump known =>
              split at h
              · cases h
                exact .noTextSection
              · next textSection here =>
                  rcases writeRecords_cases disk (Sidecar.recordsFile binary)
                    (extractor.select names textSection dump) dump.functions.length with
                    ⟨written, stored, run⟩ | ⟨error, -, run⟩
                  · cases run.symm.trans h
                    exact .extracted stored
                  · cases run.symm.trans h
                    exact .failed

theorem exists_extract_of_ending {ending : Except ExtractionError ExtractionOutcome}
    (h : (extractor.extract disk binary).2 = ending) :
    ∃ after, extractor.extract disk binary = (after, ending) :=
  ⟨_, Prod.ext rfl h⟩

/-- An extraction that fails leaves the disk as it is. -/
theorem disk_of_failed {error : ExtractionError} {after : Disk}
    (h : extractor.extract disk binary = (after, .error error)) : after = disk := by
  cases ends_of_extract h with
  | failed => rfl

theorem Reads.loadNameMap (reads : extractor.Reads disk binary entries dump) :
    disk.loadNameMap extractor.nameFilter (Sidecar.nameMapFile binary) =
      .ok (.ofEntries extractor.nameFilter entries) := by
  obtain ⟨text, read, parsed⟩ := reads.names
  obtain ⟨document, given, entered⟩ := Option.bind_eq_some_iff.mp parsed
  have names : (Json.read text).bind (NameMap.ofJson? extractor.nameFilter) =
      some (.ofEntries extractor.nameFilter entries) := by
    simp [given, NameMap.ofJson?, entered]
  rw [Disk.loadNameMap, read, mapError_ok, ok_bind, names]

theorem Reads.extract_eq (reads : extractor.Reads disk binary entries dump) :
    extractor.extract disk binary =
      match dump.textSection with
      | none => (disk, .ok .noTextSection)
      | some textSection =>
          writeRecords disk (Sidecar.recordsFile binary)
            (extractor.select (.ofEntries extractor.nameFilter entries) textSection dump)
            dump.functions.length := by
  obtain ⟨text, read, -⟩ := reads.names
  have isDue : (!extractor.force && disk.isNonempty (Sidecar.recordsFile binary)) = false := by
    rcases reads.due with forced | absent <;> simp [*]
  unfold extract
  simp only [isDue, Disk.isFile_of_readText read, reads.loadNameMap, reads.dump]
  rfl

/-- With a section, the selected records are stored as far as the disk has a place for them. -/
theorem Reads.stores (reads : extractor.Reads disk binary entries dump) {textSection : AddressRange}
    (here : dump.textSection = some textSection) {records : RecordMap} {skipped : Nat}
    (selected : selectRecords (extractor.context entries textSection dump) dump.functions = records)
    (counted : records.size + skipped = dump.functions.length) :
    extractor.Stores disk binary records skipped := by
  have run := reads.extract_eq
  have left : dump.functions.length - records.size = skipped := by omega
  unfold context at selected
  rw [here] at run
  dsimp only at run
  unfold select at run
  rw [selected] at run
  rcases writeRecords_cases disk (Sidecar.recordsFile binary) records dump.functions.length with
    ⟨after, written, stored⟩ | ⟨error, noPlace, unwritten⟩
  · rw [stored, left] at run
    exact .stored run (Disk.readText_of_write written)
  · rw [unwritten] at run
    exact .refused noPlace run

end Extractor

/-! ## A binary on a disk -/

/-- A disk with nothing on it but the texts of the name map and the dump beside a binary. -/
def Disk.ofBinary (binary nameMap dump : String) : Disk :=
  let file (text : String) := FileTree.file (.octets (Text.toOctets text.toList))
  ⟨.folder [(Sidecar.nameMapFile binary, file nameMap), (Sidecar.dumpFile binary, file dump)], []⟩

/-- Extraction with nothing but standard settings, for all names. -/
def Extractor.standard : Extractor := ⟨.plain, .standard, none, .jsonDump, false⟩

theorem Disk.readText_ofBinary (nameMap dumpText : String) :
    (Disk.ofBinary "prog" nameMap dumpText).readText (Sidecar.nameMapFile "prog") =
      .ok nameMap.toList := by
  have holds : (Disk.ofBinary "prog" nameMap dumpText).Holds (Sidecar.nameMapFile "prog")
      ["prog.name_and_addr"] (Text.toOctets nameMap.toList) := ⟨rfl, rfl⟩
  exact holds.readText

theorem Disk.loadDump_ofBinary (nameMap : String) {dumpText : String} {dump : Dump}
    (known : (Json.ofOctets (Text.toOctets dumpText.toList)).bind Dump.ofJson? = some dump) :
    (Disk.ofBinary "prog" nameMap dumpText).loadDump "prog" = .ok dump := by
  have found : (Disk.ofBinary "prog" nameMap dumpText).isFile (Sidecar.dumpFile "prog") = true := rfl
  have read : (Disk.ofBinary "prog" nameMap dumpText).read (Sidecar.dumpFile "prog") =
      .ok (Text.toOctets dumpText.toList) := rfl
  simp [Disk.loadDump, found, read, known, mapError_ok, ok_bind]

theorem Extractor.reads_ofBinary {nameMap dumpText : String} {entries : List (String × Address)}
    {dump : Dump} (names : (Json.read nameMap.toList).bind NameMap.entries? = some entries)
    (known : (Json.ofOctets (Text.toOctets dumpText.toList)).bind Dump.ofJson? = some dump) :
    Extractor.standard.Reads (.ofBinary "prog" nameMap dumpText) "prog" entries dump where
  due := .inr rfl
  names := ⟨nameMap.toList, Disk.readText_ofBinary nameMap dumpText, names⟩
  dump := Disk.loadDump_ofBinary nameMap known

end SymbolCorpus
