import SymbolCorpus.Proofs.LedgerFile

/-! # Schema versions

What opening a ledger does is decided by its version. A supported version is brought to the current
schema with all rows, and a newer one is refused. A version below the least supported one is neither:
it is taken for an older schema, gets the table of builds, and is current from then on without a table
of runs.
-/

namespace SymbolCorpus

namespace Ledger

/-- The least version that is supported, that of a ledger without a schema. -/
def leastVersion : Int32 := 0

def IsSupported (version : Int32) : Prop := leastVersion ≤ version ∧ version ≤ currentVersion

/-- The tables are those that the version stands for. -/
structure FitsVersion (ledger : Ledger) : Prop where
  runs : ledger.runs.isSome = true ↔ ledger.version = 1 ∨ ledger.version = 2
  builds : ledger.builds.isSome = true ↔ ledger.version = 2

/-- A ledger of the current schema that has both tables, with all rows of another ledger. -/
structure Upgrades (now ledger : Ledger) : Prop where
  version : now.version = currentVersion
  runs : now.runs = some (ledger.runs.getD .empty)
  builds : now.builds = some (ledger.builds.getD .empty)

variable {ledger now : Ledger}

theorem opened_of_newer (h : currentVersion < ledger.version) :
    ledger.opened = .error (.unsupportedVersion ledger.version) := by
  simp [opened, h]

theorem opened_of_current (h : ledger.version = currentVersion) : ledger.opened = .ok ledger := by
  obtain ⟨version, runs, builds⟩ := ledger
  obtain rfl : version = currentVersion := h
  rfl

theorem addBuilds_version (h : ¬ currentVersion < ledger.version) :
    ledger.addBuilds.version = currentVersion := by
  unfold addBuilds
  split
  · rfl
  · next notBelow => grind

theorem addRuns_version (h : ¬ currentVersion < ledger.version) :
    ¬ currentVersion < ledger.addRuns.version := by
  unfold addRuns
  split
  · exact (by decide : ¬ currentVersion < (1 : Int32))
  · exact h

theorem opened_of_opened (h : ledger.opened = .ok now) : now.opened = .ok now := by
  unfold opened at h
  split at h
  · cases h
  · next notNewer =>
      cases h
      exact opened_of_current (addBuilds_version (addRuns_version notNewer))

theorem eq_of_isSupported {version : Int32} (h : IsSupported version) :
    version = 0 ∨ version = 1 ∨ version = 2 := by
  unfold IsSupported leastVersion currentVersion at h
  grind

/-- Each supported version lacks exactly the tables that are made for it. -/
theorem opened_of_isSupported (fits : ledger.FitsVersion) (h : IsSupported ledger.version) :
    ∃ now, ledger.opened = .ok now ∧ now.Upgrades ledger := by
  obtain ⟨version, runs, builds⟩ := ledger
  obtain ⟨runsFit, buildsFit⟩ := fits
  dsimp only at h runsFit buildsFit
  rcases eq_of_isSupported h with rfl | rfl | rfl
  · exact ⟨_, rfl, rfl, rfl, rfl⟩
  · obtain ⟨table, rfl⟩ := Option.isSome_iff_exists.mp (runsFit.mpr (.inl rfl))
    exact ⟨_, rfl, rfl, rfl, rfl⟩
  · obtain ⟨table, rfl⟩ := Option.isSome_iff_exists.mp (runsFit.mpr (.inr rfl))
    obtain ⟨other, rfl⟩ := Option.isSome_iff_exists.mp (buildsFit.mpr rfl)
    exact ⟨_, rfl, rfl, rfl, rfl⟩

/-- A ledger whose tables were never made, stamped as current. -/
def withoutRuns : Ledger := ⟨currentVersion, none, some .empty⟩

theorem opened_of_negative (fits : ledger.FitsVersion) (h : ledger.version < leastVersion) :
    ledger.opened = .ok withoutRuns := by
  obtain ⟨version, runs, builds⟩ := ledger
  obtain ⟨runsFit, buildsFit⟩ := fits
  dsimp only at h runsFit buildsFit
  unfold leastVersion at h
  have noRuns : runs = none := by
    rw [← Option.not_isSome_iff_eq_none, runsFit]
    grind
  have noBuilds : builds = none := by
    rw [← Option.not_isSome_iff_eq_none, buildsFit]
    grind
  have notNewer : ¬ currentVersion < version := by
    unfold currentVersion
    grind
  have notZero : version ≠ 0 := by grind
  have below : version < currentVersion := by
    unfold currentVersion
    grind
  simp [opened, notNewer, addRuns, notZero, addBuilds, below, withoutRuns, noRuns, noBuilds]

end Ledger

/-! ## On the disk -/

namespace Disk

open FileTree Ledger

variable {disk : Disk} {path : String} {place : Place} {ledger : Ledger}

theorem noFolder_of_ledgerAt (h : disk.ledgerAt place = .ok ledger) :
    ∀ found, disk.tree.find? place = some found → found.isFolder = false := by
  intro found present
  cases found with
  | file content => rfl
  | folder entries => simp [ledgerAt, present] at h

theorem sameElsewhere_putLedger (placed : disk.ledgerPlace path = .ok place)
    (found : disk.ledgerAt place = .ok ledger) (now : Ledger) :
    (disk.putLedger place now).SameElsewhere disk place := by
  obtain ⟨-, folder, name, entries, -, -, rfl, standing, -⟩ := ledgerPlace_eq_ok.mp placed
  refine ⟨rfl, ?_⟩
  intro other apart
  exact shapeAt?_put_file ⟨⟨entries, standing⟩, noFolder_of_ledgerAt found⟩ _ apart

theorem openLedger_of_error (placed : disk.ledgerPlace path = .ok place)
    (found : disk.ledgerAt place = .ok ledger) {error : LedgerError}
    (h : ledger.opened = .error error) : disk.openLedger path = .error error := by
  simp [openLedger, placed, found, h, bind, Except.bind]

theorem openLedger_of_ok (placed : disk.ledgerPlace path = .ok place)
    (found : disk.ledgerAt place = .ok ledger) {now : Ledger} (h : ledger.opened = .ok now) :
    disk.openLedger path = .ok (place, disk.putLedger place now) := by
  simp [openLedger, placed, found, h, bind, Except.bind, pure, Except.pure]

theorem openLedger_again (placed : disk.ledgerPlace path = .ok place) {now : Ledger}
    (h : ledger.opened = .ok now) :
    (disk.putLedger place now).openLedger path = .ok (place, disk.putLedger place now) := by
  rw [openLedger_of_ok (ledgerPlace_putLedger placed now) (hasLedger_putLedger placed now).ledgerAt
    (opened_of_opened h), putLedger_putLedger]

/-- The disk after its ledger was opened; it stays as it is when that fails. -/
def afterOpening (disk : Disk) (path : String) : Disk :=
  match disk.openLedger path with
  | .ok (_, after) => after
  | .error _ => disk

/-- A ledger is refused and left alone exactly when its version is not supported. Any other has the
    current schema once it is opened, with both tables and all rows, nothing else on the disk is
    changed, and opening it again changes nothing. -/
structure OpensByVersion (disk : Disk) (path : String) (place : Place) (ledger : Ledger) : Prop where
  refused : disk.openLedger path = .error (.unsupportedVersion ledger.version) ↔
    ¬ IsSupported ledger.version
  unchanged : ¬ IsSupported ledger.version → disk.afterOpening path = disk
  upgraded : IsSupported ledger.version → ∃ now after,
    disk.openLedger path = .ok (place, after) ∧ after.ledgerAt place = .ok now ∧
    now.Upgrades ledger ∧ after.SameElsewhere disk place ∧
    after.openLedger path = .ok (place, after)

theorem opensByVersion_of_isSupported (placed : disk.ledgerPlace path = .ok place)
    (found : disk.ledgerAt place = .ok ledger) (fits : ledger.FitsVersion)
    (supported : IsSupported ledger.version) : disk.OpensByVersion path place ledger := by
  obtain ⟨now, opened, upgrades⟩ := opened_of_isSupported fits supported
  have opens := openLedger_of_ok placed found opened
  constructor
  · constructor
    · intro refused
      rw [opens] at refused
      cases refused
    · intro unsupported
      exact absurd supported unsupported
  · intro unsupported
    exact absurd supported unsupported
  · intro _
    exact ⟨now, _, opens, (hasLedger_putLedger placed now).ledgerAt, upgrades,
      sameElsewhere_putLedger placed found now, openLedger_again placed opened⟩

theorem opensByVersion_of_newer (placed : disk.ledgerPlace path = .ok place)
    (found : disk.ledgerAt place = .ok ledger) (newer : currentVersion < ledger.version) :
    disk.OpensByVersion path place ledger := by
  have unsupported : ¬ IsSupported ledger.version := fun supported =>
    Int32.not_lt.mpr supported.2 newer
  have refused := openLedger_of_error placed found (opened_of_newer newer)
  constructor
  · exact ⟨fun _ => unsupported, fun _ => refused⟩
  · intro _
    rw [afterOpening, refused]
  · intro supported
    exact absurd supported unsupported

/-- A negative version is no supported one, but it is not refused. -/
theorem not_opensByVersion_of_negative {after : Disk} (below : ledger.version < leastVersion)
    (opened : disk.openLedger path = .ok (place, after)) : ¬ disk.OpensByVersion path place ledger := by
  intro opens
  have unsupported : ¬ IsSupported ledger.version := fun supported =>
    Int32.not_lt.mpr supported.1 below
  have refused := opens.refused.mpr unsupported
  rw [opened] at refused
  cases refused

/-- Opening goes by the version exactly when the version is not negative. A ledger with a negative
    version is stamped as current without a table of runs; from then on no run can be entered, and
    opening it again does not help. -/
theorem opensByVersion_iff (placed : disk.ledgerPlace path = .ok place)
    (found : disk.ledgerAt place = .ok ledger) (fits : ledger.FitsVersion) :
    (disk.OpensByVersion path place ledger ↔ leastVersion ≤ ledger.version) ∧
    (ledger.version < leastVersion → ∃ after,
      disk.openLedger path = .ok (place, after) ∧ after.ledgerAt place = .ok withoutRuns ∧
      after.openLedger path = .ok (place, after) ∧
      ∀ run, withoutRuns.insertRun run = .error .storage) := by
  have negative (below : ledger.version < leastVersion) :
      disk.openLedger path = .ok (place, disk.putLedger place withoutRuns) :=
    openLedger_of_ok placed found (opened_of_negative fits below)
  constructor
  · constructor
    · intro opens
      apply Int32.not_lt.mp
      intro below
      exact not_opensByVersion_of_negative below (negative below) opens
    · intro least
      by_cases newest : ledger.version ≤ currentVersion
      · exact opensByVersion_of_isSupported placed found fits ⟨least, newest⟩
      · exact opensByVersion_of_newer placed found (Int32.not_le.mp newest)
  · intro below
    refine ⟨_, negative below, (hasLedger_putLedger placed _).ledgerAt,
      openLedger_again placed (opened_of_negative fits below), ?_⟩
    intro run
    rfl

/-- A disk with nothing on it but a ledger. -/
def ofLedger (ledger : Ledger) : Disk := ⟨.folder [("project.db", .file (.ledger ledger))], []⟩

/-- A ledger without tables and with a negative version. -/
def negativeLedger : Ledger := ⟨-1, none, none⟩

/-- A ledger of version minus one is opened, and there is no table of runs in it. -/
theorem not_opensByVersion_negative :
    (ofLedger negativeLedger).ledgerPlace "project.db" = .ok ["project.db"] ∧
      (ofLedger negativeLedger).ledgerAt ["project.db"] = .ok negativeLedger ∧
      negativeLedger.FitsVersion ∧
      ¬ (ofLedger negativeLedger).OpensByVersion "project.db" ["project.db"] negativeLedger ∧
      ∃ after, (ofLedger negativeLedger).openLedger "project.db" = .ok (["project.db"], after) ∧
        after.ledgerAt ["project.db"] = .ok withoutRuns ∧
        ∀ run, withoutRuns.insertRun run = .error .storage := by
  have placed : (ofLedger negativeLedger).ledgerPlace "project.db" = .ok ["project.db"] :=
    eq_ok_of_toOption (by decide +kernel)
  have found : (ofLedger negativeLedger).ledgerAt ["project.db"] = .ok negativeLedger := rfl
  have fits : negativeLedger.FitsVersion := ⟨by decide, by decide⟩
  obtain ⟨byVersion, negative⟩ := opensByVersion_iff placed found fits
  obtain ⟨after, opened, standing, -, refuses⟩ := negative (by decide)
  refine ⟨placed, found, fits, ?_, after, opened, standing, refuses⟩
  rw [byVersion]
  decide

end Disk

end SymbolCorpus
