import SymbolCorpus.Command.Extract
import SymbolCorpus.Proofs.Sessions
import SymbolCorpus.Proofs.SidecarFiles

/-! # Extracting a binary again

Extraction writes one file, and only when it ends with records. That file is none of those that were
read, so whatever is extracted again from the same files comes out the same: without force the records
are there already, and with force they are written as they are.
-/

namespace SymbolCorpus

/-! ## What was read -/

theorem Disk.exists_entries_of_loadNameMap {disk : Disk} {filter : NameFilter} {path : String}
    {names : NameMap} (h : disk.loadNameMap filter path = .ok names) :
    ∃ text entries, disk.readText path = .ok text ∧
      (Json.read text).bind NameMap.entries? = some entries ∧ names = .ofEntries filter entries := by
  obtain ⟨text, read, h⟩ := bind_eq_ok h
  split at h
  · next names parsed =>
      cases h
      obtain ⟨document, given, kept⟩ := Option.bind_eq_some_iff.mp parsed
      obtain ⟨entries, entered, rfl⟩ := Option.map_eq_some_iff.mp kept
      exact ⟨text, entries, mapError_eq_ok read, by simp [given, entered], rfl⟩
  · cases h

theorem Disk.SameAt.loadDump {disk later : Disk} {binary : String}
    (h : later.SameAt disk (Sidecar.dumpFile binary)) :
    later.loadDump binary = disk.loadDump binary := by
  rw [Disk.loadDump, Disk.loadDump, h.isFile, h.read]

namespace Extractor

variable {extractor : Extractor} {disk : Disk} {binary : String}

/-- The extractor, forced or not. -/
def withForce (extractor : Extractor) (force : Bool) : Extractor := { extractor with force }

theorem writeRecords_eq_ok {output : String} {records : RecordMap} {total : Nat}
    {outcome : ExtractionOutcome} {after : Disk} :
    writeRecords disk output records total = (after, .ok outcome) ↔
      outcome = .extracted records.size (total - records.size) output ∧
        disk.writeText output ((RecordMap.toJson records).layOut 0) = .ok after := by
  constructor
  · intro h
    rcases writeRecords_cases disk output records total with ⟨written, stored, run⟩ | ⟨_, -, run⟩
    · cases run.symm.trans h
      exact ⟨rfl, stored⟩
    · cases run.symm.trans h
  · rintro ⟨rfl, written⟩
    rw [writeRecords, written]

theorem exists_reads {functions skipped : Nat} {output : String} {after : Disk}
    (h : extractor.extract disk binary = (after, .ok (.extracted functions skipped output))) :
    ∃ entries dump, extractor.Reads disk binary entries dump ∧ dump.textSection.isSome := by
  unfold extract at h
  dsimp only at h
  split at h
  · cases h
  · next due =>
      split at h
      · cases h
      · split at h
        · cases h
        · next names loaded =>
            obtain ⟨text, entries, read, entered, -⟩ := Disk.exists_entries_of_loadNameMap loaded
            split at h
            · cases h
            · next dump known =>
                refine ⟨entries, dump, ⟨?_, ⟨text, read, entered⟩, known⟩, ?_⟩
                · cases forced : extractor.force with
                  | true => exact .inl rfl
                  | false => exact .inr (by simpa [forced] using due)
                · split at h
                  · cases h
                  · next here => rw [here]; rfl

/-- From the same files the same records are selected, whatever else is on the disk. -/
theorem Reads.extract_of_sameAt {entries : List (String × Address)} {dump : Dump}
    (reads : extractor.Reads disk binary entries dump) {textSection : AddressRange}
    (here : dump.textSection = some textSection) {later : Disk}
    (names : later.SameAt disk (Sidecar.nameMapFile binary))
    (dumps : later.SameAt disk (Sidecar.dumpFile binary)) :
    (extractor.withForce true).extract later binary =
      writeRecords later (Sidecar.recordsFile binary)
        (extractor.select (.ofEntries extractor.nameFilter entries) textSection dump)
        dump.functions.length := by
  have again : (extractor.withForce true).Reads later binary entries dump :=
    { due := .inl rfl
      names := by
        obtain ⟨text, read, entered⟩ := reads.names
        exact ⟨text, names.readText.trans read, entered⟩
      dump := by
        rw [← reads.dump]
        exact dumps.loadDump }
  have run := again.extract_eq
  rw [here] at run
  exact run

/-! ## The file of the records -/

theorem layOut_toJson_ne_nil (records : RecordMap) : (RecordMap.toJson records).layOut 0 ≠ [] := by
  rw [RecordMap.toJson, Json.ofFields]
  cases records.toList with
  | nil => simp [Json.layOut]
  | cons entry entries => simp [Json.layOut]

theorem size_toOctets_ne_zero {text : List Char} (h : text ≠ []) : (Text.toOctets text).size ≠ 0 := by
  intro none
  have empty : String.ofList text = "" := String.utf8ByteSize_eq_zero_iff.mp none
  have noText := congrArg String.toList empty
  rw [String.toList_ofList] at noText
  exact h noText

section Written

variable {text : List Char} {after : Disk}
  (written : disk.writeText (Sidecar.recordsFile binary) text = .ok after)

include written

theorem sameAt_inputs : after.SameAt disk (Sidecar.nameMapFile binary) ∧
    after.SameAt disk (Sidecar.dumpFile binary) :=
  ⟨(Disk.spares_of_write written (by decide) (by decide) (rfl : Sidecar.nameMapEnding.toList.getLast? = _)
      (by decide) (by decide)).1,
    (Disk.spares_of_write written (by decide) (by decide) (rfl : Sidecar.dumpEnding.toList.getLast? = _)
      (by decide) (by decide)).1⟩

theorem sameElsewhere_of_written : ∃ place, after.locate (Sidecar.recordsFile binary) = .ok place ∧
    after.SameElsewhere disk place := by
  obtain ⟨folder, name, opens, rfl⟩ := Disk.write_eq_ok written
  exact ⟨folder ++ [name], (opens.holds _).locate, opens.sameElsewhere _⟩

theorem alreadyDone_of_written (nonempty : text ≠ []) :
    (extractor.withForce false).extract after binary =
      (after, .ok (.alreadyDone (Sidecar.recordsFile binary))) := by
  obtain ⟨folder, name, opens, rfl⟩ := Disk.write_eq_ok written
  have present := (opens.holds _).isNonempty (size_toOctets_ne_zero nonempty)
  simp only [withForce, extract, Bool.not_false, Bool.true_and, present, if_true]

end Written

/-- The disk after an extraction, however that ends. -/
def diskAfter (extractor : Extractor) (disk : Disk) (binary : String) : Disk :=
  (extractor.extract disk binary).1

theorem extractPath_disk (extractor : Extractor) (binary : String) (session : Command.Session) :
    ((Command.extractPath extractor binary).run.run session).2.disk =
      extractor.diskAfter session.disk binary := by
  rw [Command.extractPath, Command.run_disk_bind, diskAfter]
  rcases extractor.extract session.disk binary with ⟨_, _ | _⟩ <;> rfl

/-! ## One extraction and those after it -/

/-- The disk after extractions of one binary, each forced or not. -/
def diskAfterAll (extractor : Extractor) (binary : String) (disk : Disk) (forces : List Bool) : Disk :=
  forces.foldl (fun disk force => (extractor.withForce force).diskAfter disk binary) disk

/-- How a disk and the same disk after records were written for a binary go together. -/
structure Settles (extractor : Extractor) (before : Disk) (binary : String)
    (functions skipped : Nat) (output : String) (after : Disk) : Prop where
  beside : output = Sidecar.recordsFile binary
  /-- Nothing is changed but the file of the records. -/
  only : ∃ place, after.locate output = .ok place ∧ after.SameElsewhere before place
  /-- Without force there is nothing left to do. -/
  unforced : (extractor.withForce false).extract after binary = (after, .ok (.alreadyDone output))
  /-- With force the same is done again, and the disk is the same again. -/
  forced : (extractor.withForce true).extract after binary =
    (after, .ok (.extracted functions skipped output))
  /-- Whatever else becomes of the disk, the same text is written from the same files, as far as there
  is a place for it. -/
  anew : ∃ text, after.readText output = .ok text ∧
    ∀ later : Disk, later.SameAt after (Sidecar.nameMapFile binary) →
      later.SameAt after (Sidecar.dumpFile binary) →
      (∃ final, (extractor.withForce true).extract later binary =
          (final, .ok (.extracted functions skipped output)) ∧ final.readText output = .ok text) ∨
        ∃ error, later.newPlace output = .error error ∧
          (extractor.withForce true).extract later binary = (later, .error (.unwritable output error))
  /-- However often and however the binary is extracted again, the disk stays as it is. -/
  settled : ∀ forces, extractor.diskAfterAll binary after forces = after

theorem diskAfterAll_eq_self {after : Disk}
    (fixed : ∀ force, (extractor.withForce force).diskAfter after binary = after) (forces : List Bool) :
    extractor.diskAfterAll binary after forces = after := by
  induction forces with
  | nil => rfl
  | cons force forces ih =>
      rw [diskAfterAll, List.foldl_cons, fixed force]
      exact ih

theorem settles_of_extracted {functions skipped : Nat} {output : String} {after : Disk}
    (h : extractor.extract disk binary = (after, .ok (.extracted functions skipped output))) :
    extractor.Settles disk binary functions skipped output after := by
  obtain ⟨entries, dump, reads, some⟩ := exists_reads h
  obtain ⟨textSection, here⟩ := Option.isSome_iff_exists.mp some
  have run := reads.extract_eq
  rw [h, here] at run
  obtain ⟨outcome, written⟩ := writeRecords_eq_ok.mp run.symm
  cases outcome
  obtain ⟨names, dumps⟩ := sameAt_inputs written
  have unforced : (extractor.withForce false).extract after binary =
      (after, .ok (.alreadyDone (Sidecar.recordsFile binary))) :=
    alreadyDone_of_written written (layOut_toJson_ne_nil _)
  have forced := reads.extract_of_sameAt here names dumps
  rw [writeRecords_eq_ok.mpr ⟨rfl, Disk.write_again written⟩] at forced
  exact
    { beside := rfl
      only := sameElsewhere_of_written written
      unforced := unforced
      forced := forced
      anew := by
        refine ⟨_, Disk.readText_of_write written, fun later names' dumps' => ?_⟩
        rw [reads.extract_of_sameAt here (names'.trans names) (dumps'.trans dumps)]
        rcases writeRecords_cases later (Sidecar.recordsFile binary) _ dump.functions.length with
          ⟨final, written, run⟩ | ⟨error, noPlace, run⟩
        · exact .inl ⟨final, run, Disk.readText_of_write written⟩
        · exact .inr ⟨error, noPlace, run⟩
      settled := by
        refine diskAfterAll_eq_self fun force => ?_
        cases force with
        | false => rw [diskAfter, unforced]
        | true => rw [diskAfter, forced] }

/-- Extraction changes the disk only when it ends with records, and then nothing but their file. After
    that, it finds the records without force, and does the same once more with force. -/
theorem extract_again (extractor : Extractor) (disk : Disk) (binary : String) :
    (∀ session : Command.Session,
      ((Command.extractPath extractor binary).run.run session).2.disk =
        extractor.diskAfter session.disk binary) ∧
    ((∀ functions skipped output,
        (extractor.extract disk binary).2 ≠ .ok (.extracted functions skipped output)) →
      extractor.diskAfter disk binary = disk) ∧
    ∀ functions skipped output after,
      extractor.extract disk binary = (after, .ok (.extracted functions skipped output)) →
        extractor.diskAfter disk binary = after ∧
          extractor.Settles disk binary functions skipped output after := by
  refine ⟨extractPath_disk extractor binary, fun other => ?_, fun functions skipped output after h => ?_⟩
  · cases ended : extractor.extract disk binary with
    | mk after ending =>
        rw [ended] at other
        rw [diskAfter, ended]
        cases ends_of_extract ended with
        | alreadyDone | missingNameMap | noTextSection => rfl
        | extracted written => exact absurd rfl (other _ _ _)
        | failed => rfl
  · exact ⟨by rw [diskAfter, h], settles_of_extracted h⟩

/-- A disk with one function that is wanted. -/
def singleDisk : Disk :=
  .ofBinary "prog" "\x7b\"alpha\": [0, 9]\x7d" "[[0, 50], [], [[0, 9, false, [], [], [], \"x;\"]]]"

/-- The function is extracted, and after that nothing is done. -/
theorem extract_singleDisk :
    ∃ after, Extractor.standard.extract singleDisk "prog" = (after, .ok (.extracted 1 0 "prog.json")) ∧
      Extractor.standard.Settles singleDisk "prog" 1 0 "prog.json" after ∧
      Extractor.standard.diskAfter after "prog" = after := by
  have ending : (Extractor.standard.extract singleDisk "prog").2.toOption =
      some (.extracted 1 0 "prog.json") := by
    decide +kernel
  obtain ⟨after, run⟩ := exists_extract_of_ending (eq_ok_of_toOption ending)
  obtain ⟨-, -, settles⟩ := extract_again .standard singleDisk "prog"
  have settled := (settles 1 0 "prog.json" after run).2
  obtain ⟨-, unchanged, -⟩ := extract_again .standard after "prog"
  refine ⟨after, run, settled, unchanged fun functions skipped output again => ?_⟩
  have done : Extractor.standard.extract after "prog" = (after, .ok (.alreadyDone "prog.json")) :=
    settled.unforced
  rw [done] at again
  cases again

end Extractor

end SymbolCorpus
