import SymbolCorpus.Proofs.LedgerEntries
import SymbolCorpus.Proofs.StoredValues

/-! # The ledger of extractions

Every binary that is given is extracted on the disk that the ones before it left, and is entered there
with how it ended. Neither a failure nor an earlier extraction keeps a later binary from its entry.
-/

namespace SymbolCorpus

/-! ## One binary -/

namespace Extractor

/-- How the extraction of a binary is entered: its status, how many functions were written, and the
    disk that it leaves. -/
inductive EndsAs (extractor : Extractor) (disk : Disk) (path : String) :
    RunStatus → Int64 → Disk → Prop where
  | succeeded {records loaded : RecordMap} {functions skipped : Nat} {after : Disk} :
      extractor.extract disk path =
        (after, .ok (.extracted functions skipped (Sidecar.recordsFile path))) →
      disk.writeText (Sidecar.recordsFile path) ((RecordMap.toJson records).layOut 0) = .ok after →
      after.readText (Sidecar.recordsFile path) = .ok ((RecordMap.toJson records).layOut 0) →
      after.loadRecords (Sidecar.recordsFile path) = .ok loaded → loaded.Equiv records →
      loaded.size = functions →
      EndsAs extractor disk path .succeeded (Int64.ofNat functions) after
  | alreadyDone :
      extractor.extract disk path = (disk, .ok (.alreadyDone (Sidecar.recordsFile path))) →
      EndsAs extractor disk path .skipped 0 disk
  | missingNameMap :
      extractor.extract disk path = (disk, .ok (.missingNameMap (Sidecar.nameMapFile path))) →
      EndsAs extractor disk path .skipped 0 disk
  | noTextSection :
      extractor.extract disk path = (disk, .ok .noTextSection) →
      EndsAs extractor disk path .skipped 0 disk
  | failed {error : ExtractionError} :
      extractor.extract disk path = (disk, .error error) →
      EndsAs extractor disk path .failed 0 disk

variable {extractor : Extractor} {disk after : Disk} {path : String}

theorem endsAs_of_extract_ok {outcome : ExtractionOutcome}
    (h : extractor.extract disk path = (after, .ok outcome)) :
    extractor.EndsAs disk path (Command.outcomeStatus outcome).1 (Command.outcomeStatus outcome).2
      after := by
  cases ends_of_extract h with
  | alreadyDone => exact .alreadyDone h
  | missingNameMap => exact .missingNameMap h
  | noTextSection => exact .noTextSection h
  | @extracted records _ _ written =>
      have same := RecordMap.equiv_ofPairs_toList records
      exact .succeeded h written (Disk.readText_of_write written)
        (RecordMap.loadRecords_of_written written) same same.size_eq

theorem endsAs_of_extract_error {error : ExtractionError}
    (h : extractor.extract disk path = (after, .error error)) :
    extractor.EndsAs disk path .failed 0 after := by
  obtain rfl := disk_of_failed h
  exact .failed h

/-- No extraction brings a ledger into being or changes one. -/
theorem EndsAs.hasLedger {status : RunStatus} {functions : Int64} {place : Place} {ledger : Ledger}
    (ends : extractor.EndsAs disk path status functions after) (h : after.HasLedger place ledger) :
    disk.HasLedger place ledger := by
  cases ends with
  | succeeded extracted written => exact h.of_write written
  | alreadyDone | missingNameMap | noTextSection | failed => exact h

end Extractor

/-! ## Binaries in turn -/

/-- The extraction of one binary and its entry. -/
structure Attempt where
  run : RunRecord
  before : Disk
  /-- The disk that the extraction left. -/
  extracted : Disk
  /-- The same disk with the entry. -/
  entered : Disk

/-- The entry tells how the extraction ended, and is added to the ledger that the extraction left. -/
structure Attempt.Holds (attempt : Attempt) (project : Project) (extractor : Extractor)
    (now : String) : Prop where
  ends : extractor.EndsAs attempt.before attempt.run.binary attempt.run.status
    attempt.run.functions attempt.extracted
  hash : attempt.run.binaryHash = (attempt.before.digest attempt.run.binary).toOption
  host : attempt.run.host = extractor.host.name
  started : attempt.run.startedAt = now
  finished : attempt.run.finishedAt = now
  entered : ∃ ledger, attempt.extracted.HasLedger project.ledgerPlace ledger ∧
    attempt.entered = attempt.extracted.putLedger project.ledgerPlace (ledger.withRuns [attempt.run])

/-- Each attempt is made on the disk that the one before it left. -/
inductive InTurn : Disk → List Attempt → Disk → Prop where
  | nil {disk : Disk} : InTurn disk [] disk
  | cons {attempt : Attempt} {rest : List Attempt} {after : Disk} :
      InTurn attempt.entered rest after → InTurn attempt.before (attempt :: rest) after

/-- Binaries were attempted in turn, and a ledger has their entries at its end. -/
structure Attempted (project : Project) (extractor : Extractor) (now : String) (paths : List String)
    (before : Disk) (ledger : Ledger) (attempts : List Attempt) (after : Disk) : Prop where
  paths : attempts.map (·.run.binary) = paths
  each : ∀ attempt ∈ attempts, attempt.Holds project extractor now
  inTurn : InTurn before attempts after
  ledger : after.HasLedger project.ledgerPlace (ledger.withRuns (attempts.map (·.run)))

/-- How many attempts failed. -/
def failures (attempts : List Attempt) : Nat := attempts.countP (·.run.status = .failed)

/-- The paths of arguments that are no files beside binaries. -/
def attemptedPaths (project : Project) (binaries : List String) : List String :=
  (binaries.map project.layout.resolve).filter fun path => !Sidecar.isSidecar path

section Attempts

variable {project : Project} {extractor : Extractor} {now : String} {ledger : Ledger} {before : Disk}

theorem Attempted.nil (there : before.HasLedger project.ledgerPlace ledger) :
    Attempted project extractor now [] before ledger [] before where
  paths := rfl
  each := by simp
  inTurn := .nil
  ledger := by simpa using there

theorem Attempted.cons {attempt : Attempt} {paths : List String} {rest : List Attempt} {after : Disk}
    (holds : attempt.Holds project extractor now)
    (later : Attempted project extractor now paths attempt.entered (ledger.withRuns [attempt.run])
      rest after) :
    Attempted project extractor now (attempt.run.binary :: paths) attempt.before ledger
      (attempt :: rest) after where
  paths := congrArg (attempt.run.binary :: ·) later.paths
  each := by
    intro other member
    cases member with
    | head => exact holds
    | tail _ member => exact later.each other member
  inTurn := .cons later.inTurn
  ledger := by simpa using later.ledger

end Attempts

/-! ## The command -/

namespace Command

variable {project : Project} {extractor : Extractor} {before after : Session}

theorem extractPath_run (extractor : Extractor) (path : String) (before : Session) :
    ∃ status functions between,
      (extractPath extractor path).run.run before = (.ok (status, functions), between) ∧
        between.now = before.now ∧
        extractor.EndsAs before.disk path status functions between.disk := by
  rw [extractPath, run_disk_bind]
  cases ended : extractor.extract before.disk path with
  | mk disk ending =>
      cases ending with
      | error error => exact ⟨.failed, 0, _, rfl, rfl, Extractor.endsAs_of_extract_error ended⟩
      | ok outcome => exact ⟨_, _, _, rfl, rfl, Extractor.endsAs_of_extract_ok ended⟩

theorem extractBinary_run (project : Project) (extractor : Extractor) (binary : String)
    (before : Session) :
    (∃ cause, ((extractBinary project extractor binary).run.run before).1 =
      .error (.runEntry binary cause)) ∨
    ∃ attempt : Attempt, attempt.Holds project extractor before.now ∧
      attempt.run.binary = project.layout.resolve binary ∧ attempt.before = before.disk ∧
      ∃ after : Session, after.disk = attempt.entered ∧ after.now = before.now ∧
        (extractBinary project extractor binary).run.run before = (.ok attempt.run.status, after) := by
  obtain ⟨status, functions, between, ran, time, ends⟩ :=
    extractPath_run extractor (project.layout.resolve binary) before
  let run : RunRecord :=
    ⟨project.layout.resolve binary, (before.disk.digest (project.layout.resolve binary)).toOption,
      extractor.host.name, status, functions, before.now, between.now⟩
  have whole : (extractBinary project extractor binary).run.run before =
      (do Action.update ((project.enterRun between.disk run).mapError (.runEntry binary))
          pure status : Action RunStatus).run.run between := by
    rw [extractBinary, run_now_bind, run_disk_bind, run_bind_of_ok ran]
    dsimp only
    rw [run_now_bind, run_disk_bind]
  rw [whole]
  cases entry : project.enterRun between.disk run with
  | error cause => exact .inl ⟨cause, rfl⟩
  | ok disk =>
      obtain ⟨ledger, there, entered⟩ := Project.enterRun_eq_ok entry
      refine .inr ⟨⟨run, before.disk, between.disk, disk⟩, ?_, rfl, rfl, ?_⟩
      · exact ⟨ends, rfl, rfl, rfl, time, ledger, there, entered⟩
      · exact ⟨{ between with disk }, rfl, time, rfl⟩

/-- All binaries are attempted in turn, unless the ledger does not take an entry. -/
theorem extractAll_run (project : Project) (extractor : Extractor) {ledger : Ledger}
    (binaries : List String) (there : before.disk.HasLedger project.ledgerPlace ledger) :
    (∃ binary cause, ((extractAll project extractor binaries).run.run before).1 =
      .error (.runEntry binary cause)) ∨
    ∃ attempts after, (extractAll project extractor binaries).run.run before =
        (.ok (failures attempts), after) ∧
      Attempted project extractor before.now (attemptedPaths project binaries) before.disk ledger
        attempts after.disk := by
  induction binaries generalizing before ledger with
  | nil => exact .inr ⟨[], before, rfl, .nil there⟩
  | cons binary rest ih =>
      rw [extractAll]
      split
      · next beside =>
          have paths : attemptedPaths project (binary :: rest) = attemptedPaths project rest := by
            simp [attemptedPaths, beside]
          rw [paths]
          exact ih there
      · next plain =>
          have paths : attemptedPaths project (binary :: rest) =
              project.layout.resolve binary :: attemptedPaths project rest := by
            simp [attemptedPaths, plain]
          rcases extractBinary_run project extractor binary before with
            ⟨cause, refused⟩ | ⟨attempt, holds, path, disk, between, left, time, ran⟩
          · refine .inl ⟨binary, cause, ?_⟩
            rw [run_bind_of_error (Prod.ext refused rfl)]
          · obtain ⟨found, present, entered⟩ := holds.entered
            -- The entry went into the ledger that the extraction left, which is the one from before it.
            have same := (holds.ends.hasLedger present).ledgerAt
            rw [disk, there.ledgerAt] at same
            cases same
            have next : between.disk.HasLedger project.ledgerPlace (ledger.withRuns [attempt.run]) := by
              rw [left, entered]
              exact present.put _
            rw [run_bind_of_ok ran]
            rcases ih next with ⟨later, cause, refused⟩ | ⟨attempts, after, ranRest, attempted⟩
            · refine .inl ⟨later, cause, ?_⟩
              rw [run_bind_of_error (Prod.ext refused rfl)]
            · refine .inr ⟨attempt :: attempts, after, ?_, ?_⟩
              · rw [run_bind_of_ok ranRest, run_pure, failures, failures, List.countP_cons]
                split <;> simp [*]
              · rw [time, left] at attempted
                rw [paths, ← path, ← disk]
                exact .cons holds attempted

theorem eq_of_extractorOf {force : Bool}
    (ran : (extractorOf project force).run.run before = (.ok extractor, after)) : after = before := by
  unfold extractorOf at ran
  dsimp only at ran
  split at ran
  · cases ran
  · next host named =>
      rw [run_disk_bind] at ran
      obtain ⟨segmenter, -, ran⟩ := run_orFail_bind_eq_ok ran
      obtain ⟨blocklist, -, ran⟩ := run_orFail_bind_eq_ok ran
      rw [run_pure] at ran
      cases ran
      rfl

/-- Every argument that is no file beside a binary is attempted once, in the order of the arguments, and
    entered behind all rows that were there. The command fails exactly when an attempt failed. -/
theorem extract_enters {root : String} {force : Bool} {binaries : List String}
    {start opened after : Session} {answer : Except CommandError Unit}
    (opens : (openProject root).run.run start = (.ok project, opened))
    (loads : ((extractorOf project force).run.run opened).1 = .ok extractor)
    (ran : (extract root force binaries).run.run start = (answer, after))
    (taken : ∀ binary cause, answer ≠ .error (.runEntry binary cause)) :
    ∃ ledger attempts, opened.disk.HasLedger project.ledgerPlace ledger ∧
      Attempted project extractor start.now (attemptedPaths project binaries) opened.disk ledger
        attempts after.disk ∧
      (∀ binary, (ledger.withRuns (attempts.map (·.run))).listRuns binary =
        (ledger.listRuns binary).map
          (· ++ (attempts.map (·.run)).filter fun run => binary.all (run.binary == ·))) ∧
      (answer = .ok () ↔ ∀ attempt ∈ attempts, attempt.run.status ≠ .failed) ∧
      (answer ≠ .ok () →
        answer = .error (.failedBinaries (failures attempts) binaries.length)) := by
  obtain ⟨ledger, there⟩ := hasLedger_of_openProject opens
  obtain ⟨-, session⟩ := openLedger_of_openProject opens
  have time : opened.now = start.now := by rw [session]
  have loaded : (extractorOf project force).run.run opened = (.ok extractor, opened) :=
    Prod.ext loads (eq_of_extractorOf (Prod.ext loads rfl))
  rw [extract, run_bind_of_ok opens, run_bind_of_ok loaded] at ran
  rcases extractAll_run project extractor binaries there with
    ⟨binary, cause, refused⟩ | ⟨attempts, last, ranAll, attempted⟩
  · rw [run_bind_of_error (Prod.ext refused rfl)] at ran
    cases ran
    exact absurd rfl (taken binary cause)
  · rw [run_bind_of_ok ranAll] at ran
    rw [time] at attempted
    have none : failures attempts = 0 ↔ ∀ attempt ∈ attempts, attempt.run.status ≠ .failed := by
      simp [failures]
    refine ⟨ledger, attempts, there, ?_⟩
    by_cases some : failures attempts = 0
    · rw [if_neg (not_not_intro some), run_pure] at ran
      cases ran
      refine ⟨attempted, Ledger.listRuns_withRuns _ _, ?_, ?_⟩
      · simp [← none, some]
      · simp
    · rw [if_pos some] at ran
      cases ran
      refine ⟨attempted, Ledger.listRuns_withRuns _ _, ?_, ?_⟩
      · simp [← none, some]
      · simp

/-- A project with one binary that can be extracted and one whose name map cannot be read. -/
def twoBinaries : Session :=
  let file (text : String) := FileTree.file (.octets (Text.toOctets text.toList))
  .start
    ⟨.folder
      [(".namecorpus", .folder
          [("project.json", file "[\"demo\", null, \"0.1.0\", [\"project.db\"]]")]),
        ("prog.name_and_addr", file "\x7b\"alpha\": [0, 9]\x7d"),
        ("prog.dump.json", file "[[0, 50], [], [[0, 9, false, [], [], [], \"x;\"]]]"),
        ("bad.name_and_addr", file "[")], []⟩
    "noon" .empty

/-- The file of records that is given is passed over, the binary that fails is entered all the same, and
    the second time there is nothing to do. -/
theorem extract_twoBinaries :
    ∃ project opened extractor after ledger attempts,
      (openProject ".").run.run twoBinaries = (.ok project, opened) ∧
      ((extractorOf project false).run.run opened).1 = .ok extractor ∧
      (extract "." false ["prog", "prog.json", "bad", "prog"]).run.run twoBinaries =
        (.error (.failedBinaries 1 4), after) ∧
      Attempted project extractor "noon" ["/prog", "/bad", "/prog"] opened.disk ledger attempts
        after.disk ∧
      attempts.map (·.run) =
        [⟨"/prog", none, "json-dump", .succeeded, 1, "noon", "noon"⟩,
          ⟨"/bad", none, "json-dump", .failed, 0, "noon", "noon"⟩,
          ⟨"/prog", none, "json-dump", .skipped, 0, "noon", "noon"⟩] := by
  have opens : ((openProject ".").run.run twoBinaries).1.toOption.map
      (fun project => (project.layout, project.ledgerPlace)) =
        some (⟨"/"⟩, [("project.db" : FileName)]) := by
    decide +kernel
  obtain ⟨project, found, shown⟩ := Option.map_eq_some_iff.mp opens
  obtain ⟨layout, place⟩ := Prod.mk.inj shown
  obtain ⟨opened, opens⟩ := exists_run_of_ok (eq_ok_of_toOption found)
  have loads :
      ((do extractorOf (← openProject ".") false).run.run twoBinaries).1.toOption.isSome := by
    decide +kernel
  rw [run_bind_of_ok opens] at loads
  obtain ⟨extractor, loaded⟩ := Option.isSome_iff_exists.mp loads
  have ended : finish ["project.db"] (·.listRuns none)
        ((extract "." false ["prog", "prog.json", "bad", "prog"]).run.run twoBinaries) =
      (some (.failedBinaries 1 4), some
        [⟨"/prog", none, "json-dump", .succeeded, 1, "noon", "noon"⟩,
          ⟨"/bad", none, "json-dump", .failed, 0, "noon", "noon"⟩,
          ⟨"/prog", none, "json-dump", .skipped, 0, "noon", "noon"⟩]) := by
    decide +kernel
  obtain ⟨after, now, ran, standing, rows⟩ := of_finish ended
  obtain ⟨ledger, attempts, -, attempted, listed, -, -⟩ :=
    extract_enters opens (eq_ok_of_toOption loaded) ran (by intro binary cause same; cases same)
  have paths : attemptedPaths project ["prog", "prog.json", "bad", "prog"] =
      ["/prog", "/bad", "/prog"] := by
    rw [attemptedPaths, layout]
    decide +kernel
  rw [paths] at attempted
  refine ⟨project, opened, extractor, after, ledger, attempts, opens, eq_ok_of_toOption loaded, ran,
    attempted, ?_⟩
  have same := attempted.ledger.ledgerAt
  rw [place, standing] at same
  cases same
  have whole := listed none
  rw [rows] at whole
  cases before : ledger.listRuns none with
  | error cause =>
      rw [before] at whole
      cases whole
  | ok earlier =>
      rw [before] at whole
      have appended := Except.ok.inj whole
      have everyRun : ((attempts.map (·.run)).filter fun run =>
          Option.all (fun path => run.binary == path) none) = attempts.map (·.run) :=
        List.filter_eq_self.mpr fun _ _ => rfl
      have count : attempts.length = 3 := by simpa using congrArg List.length attempted.paths
      rw [everyRun] at appended
      have noneBefore : earlier = [] := by simpa [count] using congrArg List.length appended
      simpa [noneBefore] using appended.symm

end Command

end SymbolCorpus
