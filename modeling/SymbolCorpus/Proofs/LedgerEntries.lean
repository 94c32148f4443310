import SymbolCorpus.Proofs.LedgerFile

/-! # Entries of a ledger

Entries are rows at the end of their table. Whatever is listed afterwards is what was listed before
with the entries behind it, and nothing else in the ledger or on the disk is changed.
-/

namespace SymbolCorpus

namespace Table

variable {Row : Type}

def append (table : Table Row) (rows : List Row) : Table Row :=
  ⟨table.rows ++ rows, table.lastNumber + rows.length⟩

@[simp] theorem append_nil (table : Table Row) : table.append [] = table := by
  simp [append]

@[simp] theorem append_append (table : Table Row) (rows more : List Row) :
    (table.append rows).append more = table.append (rows ++ more) := by
  simp [append, Nat.add_assoc]

end Table

/-! ## Statuses as texts -/

theorem RunStatus.parse?_label (status : RunStatus) : parse? status.label = some status := by
  cases status <;> decide +kernel

@[simp] theorem RunRecord.toRecord?_toRow (run : RunRecord) : run.toRow.toRecord? = some run := by
  simp [RunRow.toRecord?, toRow, RunStatus.parse?_label]

namespace Ledger

/-- The ledger with runs entered one after another. -/
def withRuns (ledger : Ledger) (runs : List RunRecord) : Ledger :=
  { ledger with runs := ledger.runs.map (·.append (runs.map RunRecord.toRow)) }

/-- The ledger with builds entered one after another. -/
def withBuilds (ledger : Ledger) (builds : List BuildRecord) : Ledger :=
  { ledger with builds := ledger.builds.map (·.append builds) }

variable {ledger : Ledger}

@[simp] theorem withRuns_nil (ledger : Ledger) : ledger.withRuns [] = ledger := by
  simp [withRuns]

@[simp] theorem withRuns_withRuns (ledger : Ledger) (runs more : List RunRecord) :
    (ledger.withRuns runs).withRuns more = ledger.withRuns (runs ++ more) := by
  simp [withRuns, Function.comp_def]

@[simp] theorem withBuilds_nil (ledger : Ledger) : ledger.withBuilds [] = ledger := by
  simp [withBuilds]

@[simp] theorem withBuilds_withBuilds (ledger : Ledger) (builds more : List BuildRecord) :
    (ledger.withBuilds builds).withBuilds more = ledger.withBuilds (builds ++ more) := by
  simp [withBuilds, Function.comp_def]

theorem runsOfRows_append (rows : List RunRow) (runs : List RunRecord) :
    runsOfRows (rows ++ runs.map RunRecord.toRow) = (runsOfRows rows).map (· ++ runs) := by
  induction rows with
  | nil =>
      induction runs with
      | nil => rfl
      | cons run runs ih =>
          rw [List.nil_append] at ih ⊢
          simp [runsOfRows, ih, Except.map]
  | cons row rows ih =>
      rw [List.cons_append, runsOfRows, runsOfRows]
      cases row.toRecord? with
      | none => rfl
      | some run =>
          dsimp only
          rw [ih]
          cases runsOfRows rows <;> rfl

theorem listRuns_withRuns (ledger : Ledger) (runs : List RunRecord) (binary : Option String) :
    (ledger.withRuns runs).listRuns binary =
      (ledger.listRuns binary).map (· ++ runs.filter fun run => binary.all (run.binary == ·)) := by
  obtain ⟨version, table, builds⟩ := ledger
  cases table with
  | none => rfl
  | some table =>
      have rows : ((table.rows ++ runs.map RunRecord.toRow).filter
            fun row => binary.all (row.binary == ·)) =
          (table.rows.filter fun row => binary.all (row.binary == ·)) ++
            (runs.filter fun run => binary.all (run.binary == ·)).map RunRecord.toRow := by
        rw [List.filter_append, List.filter_map]
        rfl
      exact (congrArg runsOfRows rows).trans (runsOfRows_append _ _)

theorem listBuilds_withBuilds (ledger : Ledger) (builds : List BuildRecord) (split : Option String) :
    (ledger.withBuilds builds).listBuilds split =
      (ledger.listBuilds split).map
        (· ++ builds.filter fun build => split.all (build.split == ·)) := by
  obtain ⟨version, runs, table⟩ := ledger
  cases table with
  | none => rfl
  | some table => exact congrArg Except.ok (List.filter_append ..)

end Ledger

/-! ## On the disk -/

namespace Project

variable {project : Project} {disk after : Disk}

theorem enterRun_eq_ok {run : RunRecord} (h : project.enterRun disk run = .ok after) :
    ∃ ledger, disk.HasLedger project.ledgerPlace ledger ∧
      after = disk.putLedger project.ledgerPlace (ledger.withRuns [run]) := by
  obtain ⟨ledger, found, h⟩ := bind_eq_ok h
  obtain ⟨⟨number, now⟩, inserted, h⟩ := bind_eq_ok h
  cases h
  obtain ⟨table, there, inserted⟩ := bind_eq_ok inserted
  cases inserted
  unfold Ledger.runTable at there
  split at there
  · next runs =>
      cases there
      have opened : ledger ≠ .fresh := by
        rintro rfl
        cases runs
      refine ⟨ledger, Disk.hasLedger_of_ledgerAt found opened, ?_⟩
      rw [Ledger.withRuns, runs]
      rfl
  · cases there

theorem enterBuild_eq_ok {build : BuildRecord} (h : project.enterBuild disk build = .ok after) :
    ∃ ledger, disk.HasLedger project.ledgerPlace ledger ∧
      after = disk.putLedger project.ledgerPlace (ledger.withBuilds [build]) := by
  obtain ⟨ledger, found, h⟩ := bind_eq_ok h
  obtain ⟨⟨number, now⟩, inserted, h⟩ := bind_eq_ok h
  cases h
  obtain ⟨table, there, inserted⟩ := bind_eq_ok inserted
  cases inserted
  unfold Ledger.buildTable at there
  split at there
  · next builds =>
      cases there
      have opened : ledger ≠ .fresh := by
        rintro rfl
        cases builds
      refine ⟨ledger, Disk.hasLedger_of_ledgerAt found opened, ?_⟩
      rw [Ledger.withBuilds, builds]
      rfl
  · cases there

end Project

end SymbolCorpus
