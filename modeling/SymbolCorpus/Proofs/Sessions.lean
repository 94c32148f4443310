import SymbolCorpus.Command.Session
import SymbolCorpus.Proofs.SchemaVersions

/-! # Runs of commands

A step of a command answers with a value or an error and leaves a session, and so do steps one after
another: an error ends them in the session in which it came up. Opening a project leaves a ledger of the
current schema behind, and a project whose ledger is current is opened without any change.
-/

namespace SymbolCorpus

namespace Command

variable {α β : Type} {first : Action α} {next : α → Action β} {before between after : Session}
  {value : α} {result : β} {error : CommandError}

theorem run_bind (first : Action α) (next : α → Action β) (before : Session) :
    (first >>= next).run.run before =
      match first.run.run before with
      | (.ok value, between) => (next value).run.run between
      | (.error error, between) => (.error error, between) := by
  simp only [ExceptT.run_bind, StateT.run_bind]
  rcases first.run.run before with ⟨_ | _, between⟩ <;> rfl

theorem run_bind_of_ok (h : first.run.run before = (.ok value, between)) :
    (first >>= next).run.run before = (next value).run.run between := by
  rw [run_bind, h]

theorem run_bind_of_error (h : first.run.run before = (.error error, after)) :
    (first >>= next).run.run before = (.error error, after) := by
  rw [run_bind, h]

theorem run_bind_eq_ok (h : (first >>= next).run.run before = (.ok result, after)) :
    ∃ value between, first.run.run before = (.ok value, between) ∧
      (next value).run.run between = (.ok result, after) := by
  rw [run_bind] at h
  cases ran : first.run.run before with
  | mk answer between =>
      rw [ran] at h
      cases answer with
      | error error => cases h
      | ok value => exact ⟨value, between, rfl, h⟩

theorem exists_run_of_ok {step : Action α} (h : (step.run.run before).1 = .ok value) :
    ∃ after, step.run.run before = (.ok value, after) :=
  ⟨_, Prod.ext h rfl⟩

theorem run_disk_bind (next : Disk → Action α) (session : Session) :
    (Action.disk >>= next).run.run session = (next session.disk).run.run session := rfl

theorem run_now_bind (next : String → Action α) (session : Session) :
    (Action.now >>= next).run.run session = (next session.now).run.run session := rfl

theorem run_setDisk_bind (disk : Disk) (next : Unit → Action α) (session : Session) :
    (Action.setDisk disk >>= next).run.run session = (next ()).run.run { session with disk } := rfl

theorem run_print_bind (line : String) (next : Unit → Action α) (session : Session) :
    (Action.print line >>= next).run.run session =
      (next ()).run.run { session with lines := session.lines.push line } := rfl

theorem run_pure (value : α) (session : Session) :
    (pure value : Action α).run.run session = (.ok value, session) := rfl

theorem run_orFail_ok_bind {ε : Type} (value : α) (change : ε → CommandError) (next : α → Action β)
    (session : Session) :
    (Action.orFail (.ok value) change >>= next).run.run session = (next value).run.run session := rfl

theorem run_orFail_error_bind {ε : Type} (cause : ε) (change : ε → CommandError)
    (next : α → Action β) (session : Session) :
    (Action.orFail (.error cause) change >>= next).run.run session =
      (.error (change cause), session) := rfl

theorem run_orFail_eq_ok {ε : Type} {answer : Except ε α} {change : ε → CommandError}
    (h : (Action.orFail answer change).run.run before = (.ok value, after)) :
    answer = .ok value ∧ after = before := by
  cases answer with
  | error cause => cases h
  | ok other =>
      cases h
      exact ⟨rfl, rfl⟩

theorem run_orFail_bind_eq_ok {ε : Type} {answer : Except ε α} {change : ε → CommandError}
    (h : (Action.orFail answer change >>= next).run.run before = (.ok result, after)) :
    ∃ value, answer = .ok value ∧ (next value).run.run before = (.ok result, after) := by
  cases answer with
  | error cause => cases h
  | ok value => exact ⟨value, rfl, h⟩

end Command

/-! ## Opening a project -/

theorem Disk.openLedger_eq_ok {disk after : Disk} {path : String} {place : Place}
    (h : disk.openLedger path = .ok (place, after)) :
    ∃ ledger now, disk.ledgerPlace path = .ok place ∧ disk.ledgerAt place = .ok ledger ∧
      ledger.opened = .ok now ∧ after = disk.putLedger place now := by
  obtain ⟨_, placed, h⟩ := bind_eq_ok h
  obtain ⟨ledger, found, h⟩ := bind_eq_ok h
  obtain ⟨now, opened, h⟩ := bind_eq_ok h
  cases h
  exact ⟨ledger, now, placed, found, opened, rfl⟩

namespace Project

variable {project : Project} {disk after : Disk}

theorem openLedger_of_open? {root : String} (h : Project.open? disk root = .ok (project, after)) :
    disk.openLedger project.ledgerPath = .ok (project.ledgerPlace, after) := by
  obtain ⟨config, -, h⟩ := bind_eq_ok h
  obtain ⟨⟨place, next⟩, opened, h⟩ := bind_eq_ok h
  cases h
  exact mapError_eq_ok opened

end Project

namespace Command

variable {project : Project} {root : String} {before after : Session}

theorem openLedger_of_openProject
    (h : (openProject root).run.run before = (.ok project, after)) :
    before.disk.openLedger project.ledgerPath = .ok (project.ledgerPlace, after.disk) ∧
      after = { before with disk := after.disk } := by
  rw [openProject, run_disk_bind] at h
  obtain ⟨⟨_, disk⟩, answer, h⟩ := run_orFail_bind_eq_ok h
  dsimp only at h
  rw [run_setDisk_bind, run_pure] at h
  cases h
  exact ⟨Project.openLedger_of_open? answer, rfl⟩

theorem hasLedger_of_openProject (h : (openProject root).run.run before = (.ok project, after)) :
    ∃ ledger, after.disk.HasLedger project.ledgerPlace ledger := by
  obtain ⟨-, now, placed, -, -, disk⟩ := Disk.openLedger_eq_ok (openLedger_of_openProject h).1
  rw [disk]
  exact ⟨now, Disk.hasLedger_putLedger placed now⟩

/-- Opening a project whose ledger is current changes nothing. -/
theorem openProject_of_current (h : (openProject root).run.run before = (.ok project, after))
    {ledger : Ledger} (there : before.disk.HasLedger project.ledgerPlace ledger)
    (current : ledger.version = Ledger.currentVersion) : after = before := by
  obtain ⟨opens, session⟩ := openLedger_of_openProject h
  obtain ⟨found, now, placed, present, opened, disk⟩ := Disk.openLedger_eq_ok opens
  rw [there.ledgerAt] at present
  cases present
  rw [Ledger.opened_of_current current] at opened
  cases opened
  rw [session, disk, there.putLedger_self]

/-! ## What a command comes to -/

/-- What made a command fail, if anything did, and the rows that are listed in a ledger after it. -/
def finish {Row : Type} (place : Place) (list : Ledger → Except LedgerError (List Row))
    (ran : Except CommandError Unit × Session) : Option CommandError × Option (List Row) :=
  (match ran.1 with
    | .error error => some error
    | .ok _ => none,
    (ran.2.disk.ledgerAt place).toOption.bind fun ledger => (list ledger).toOption)

theorem of_finish {Row : Type} {place : Place} {list : Ledger → Except LedgerError (List Row)}
    {ran : Except CommandError Unit × Session} {failure : Option CommandError} {rows : List Row}
    (h : finish place list ran = (failure, some rows)) :
    ∃ after ledger, ran = (failure.elim (.ok ()) .error, after) ∧
      after.disk.ledgerAt place = .ok ledger ∧ list ledger = .ok rows := by
  obtain ⟨answer, after⟩ := ran
  obtain ⟨rfl, listed⟩ := Prod.mk.inj h
  obtain ⟨ledger, found, shown⟩ := Option.bind_eq_some_iff.mp listed
  refine ⟨after, ledger, ?_, eq_ok_of_toOption found, eq_ok_of_toOption shown⟩
  cases answer <;> rfl

end Command

end SymbolCorpus
