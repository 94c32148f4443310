import SymbolCorpus.Ledger.Record

/-! # The ledger

A project keeps a ledger of extraction runs and corpus builds. A ledger has a schema version and up to
two tables. Rows are numbered from one in the order in which they are entered, and a number is never
used again while its table lasts.

Opening a ledger brings it to the current schema: version zero gets the table of runs, every version
below two the table of builds. The version alone decides: a ledger whose version was set by hand may
lack a table for good.
-/

namespace SymbolCorpus

/-- A run as its table holds it: the status is any text. -/
structure RunRow where
  binary : String
  binaryHash : Option String
  host : String
  /-- The name of a status, unless it was changed by hand. -/
  status : String
  /-- How many functions were written. -/
  functions : Int64
  startedAt : String
  /-- When the run ended. -/
  finishedAt : String
  deriving DecidableEq

def RunRecord.toRow (run : RunRecord) : RunRow :=
  ⟨run.binary, run.binaryHash, run.host, run.status.label, run.functions, run.startedAt,
    run.finishedAt⟩

/-- The run of a row, when its status is one. -/
def RunRow.toRecord? (row : RunRow) : Option RunRecord :=
  (RunStatus.parse? row.status).map fun status =>
    ⟨row.binary, row.binaryHash, row.host, status, row.functions, row.startedAt, row.finishedAt⟩

/-- Rows in the order of their numbers, and the last number used. -/
structure Table (Row : Type) where
  rows : List Row
  /-- The number of the row entered last. -/
  lastNumber : Nat

namespace Table

variable {Row : Type}

/-- No rows, and no number used. -/
def empty : Table Row := ⟨[], 0⟩

def insert (table : Table Row) (row : Row) : Table Row :=
  ⟨table.rows ++ [row], table.lastNumber + 1⟩

end Table

/-- What a project remembers. -/
structure Ledger where
  version : Int32
  /-- The table of extraction runs, when there is one. -/
  runs : Option (Table RunRow)
  /-- The table of corpus builds, when there is one. -/
  builds : Option (Table BuildRecord)

/-- Why the ledger did not answer. -/
inductive LedgerError where
  /-- The file cannot be opened, is no ledger, or lacks a table. -/
  | storage
  /-- The schema is newer than any that is known. -/
  | unsupportedVersion (found : Int32)
  | invalidStatus (text : String)
  deriving DecidableEq

namespace Ledger

/-- A ledger nobody has opened yet. -/
def fresh : Ledger := ⟨0, none, none⟩

/-- The schema that a ledger has after it was opened. -/
def currentVersion : Int32 := 2

/-- The table of runs is made where the version says that there is no schema. -/
def addRuns (ledger : Ledger) : Ledger :=
  if ledger.version = 0 then
    { ledger with runs := some (ledger.runs.getD .empty), version := 1 }
  else ledger

/-- The table of builds is made where the version is below the current one. -/
def addBuilds (ledger : Ledger) : Ledger :=
  if ledger.version < currentVersion then
    { ledger with builds := some (ledger.builds.getD .empty), version := currentVersion }
  else ledger

/-- The ledger with the current schema. -/
def opened (ledger : Ledger) : Except LedgerError Ledger :=
  if currentVersion < ledger.version then .error (.unsupportedVersion ledger.version)
  else .ok ledger.addRuns.addBuilds

def runTable (ledger : Ledger) : Except LedgerError (Table RunRow) :=
  match ledger.runs with
  | some table => .ok table
  | none => .error .storage

def buildTable (ledger : Ledger) : Except LedgerError (Table BuildRecord) :=
  match ledger.builds with
  | some table => .ok table
  | none => .error .storage

/-- Enters a run and answers its number. -/
def insertRun (ledger : Ledger) (run : RunRecord) : Except LedgerError (Nat × Ledger) := do
  let table ← ledger.runTable
  let table := table.insert run.toRow
  pure (table.lastNumber, { ledger with runs := some table })

/-- Enters a build and answers its number. -/
def insertBuild (ledger : Ledger) (build : BuildRecord) : Except LedgerError (Nat × Ledger) := do
  let table ← ledger.buildTable
  let table := table.insert build
  pure (table.lastNumber, { ledger with builds := some table })

/-- The runs of rows; the first status that is none is the error. -/
def runsOfRows : List RunRow → Except LedgerError (List RunRecord)
  | [] => .ok []
  | row :: rows =>
      match row.toRecord? with
      | none => .error (.invalidStatus row.status)
      | some run => (runsOfRows rows).map (run :: ·)

/-- The runs in the order in which they were entered, all or those of one binary. -/
def listRuns (ledger : Ledger) (binary : Option String) : Except LedgerError (List RunRecord) := do
  let table ← ledger.runTable
  runsOfRows (table.rows.filter fun row => binary.all (row.binary == ·))

/-- The builds in the order in which they were entered, all or those of one split. -/
def listBuilds (ledger : Ledger) (split : Option String) : Except LedgerError (List BuildRecord) := do
  let table ← ledger.buildTable
  pure (table.rows.filter fun row => split.all (row.split == ·))

end Ledger

/-- What is said of an error. -/
def LedgerError.message : LedgerError → String
  | storage => "SQLite error"
  | unsupportedVersion found =>
      "Unsupported schema version " ++ toString found.toInt ++ "; supported range is 0..=" ++
        toString Ledger.currentVersion.toInt
  | invalidStatus text => "Invalid run status '" ++ text ++ "' in database"

end SymbolCorpus
