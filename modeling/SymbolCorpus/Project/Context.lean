import SymbolCorpus.Project.Config
import SymbolCorpus.Project.Resource

/-! # An opened project

Opening a project reads its description and brings its ledger to the current schema. The ledger stays
on the disk: each entry is written there at once.
-/

namespace SymbolCorpus

/-! ## Ledgers on the disk -/

namespace Disk

/-- The place of a ledger. Folders above are taken back in the path itself, so they need not be there;
every folder that is left must be. -/
def ledgerPlace (disk : Disk) (path : String) : Except LedgerError Place :=
  match disk.origin path with
  | .error _ => .error .storage
  | .ok start =>
      let place := Path.simplified (start ++ RawPath.parts path)
      match disk.tree.find? place.dropLast, place.getLast? with
      | some (.folder _), some name =>
          if FileTree.isLongName name then .error .storage else .ok place
      | _, _ => .error .storage

/-- The ledger at a place. Nothing, or an empty file, is a fresh ledger. -/
def ledgerAt (disk : Disk) (place : Place) : Except LedgerError Ledger :=
  match disk.tree.find? place with
  | none => .ok .fresh
  | some (.file (.ledger ledger)) => .ok ledger
  | some (.file (.octets octets)) => if octets.size = 0 then .ok .fresh else .error .storage
  | some (.folder _) => .error .storage

def putLedger (disk : Disk) (place : Place) (ledger : Ledger) : Disk :=
  disk.putContent place (.ledger ledger)

/-- Brings the ledger of a path to the current schema; answers its place and the disk. -/
def openLedger (disk : Disk) (path : String) : Except LedgerError (Place × Disk) := do
  let place ← disk.ledgerPlace path
  let ledger ← disk.ledgerAt place
  let ledger ← ledger.opened
  pure (place, disk.putLedger place ledger)

end Disk

/-! ## Descriptions on the disk -/

/-- Why a project could not be used. -/
inductive ProjectError where
  /-- The description could not be read. -/
  | unreadable (path : String) (cause : FileError)
  /-- The description has not the form it should have. -/
  | malformed (path : String)
  /-- The ledger could not be opened. -/
  | ledger (path : String) (cause : LedgerError)
  /-- The segmenter could not be loaded. -/
  | model (cause : ModelError)
  /-- The blocklist could not be loaded. -/
  | blocklist (cause : NameFileError)
  deriving DecidableEq

/-- What is said of an error. -/
def ProjectError.message : ProjectError → String
  | unreadable path _ => "Failed to read project config at " ++ path
  | malformed path => "Failed to parse project config at " ++ path
  | ledger path _ => "Failed to open project database at " ++ path
  | model _ => "Failed to load subword model or word list"
  | blocklist _ => "Failed to load blocklist"

/-- The description of a project. -/
def Disk.loadConfig (disk : Disk) (layout : Layout) : Except ProjectError ProjectConfig := do
  let path := layout.configFile
  let text ← (disk.readText path).mapError (.unreadable path)
  match (Json.read text).bind ProjectConfig.ofJson? with
  | some config => .ok config
  | none => .error (.malformed path)

/-- A project that was opened. -/
structure Project where
  /-- Where its files are. -/
  layout : Layout
  config : ProjectConfig
  ledgerPath : String
  ledgerPlace : Place

namespace Project

/-- Opens the project at a root; answers the disk with its ledger. -/
def open? (disk : Disk) (root : String) : Except ProjectError (Project × Disk) := do
  let layout : Layout := ⟨root⟩
  let config ← disk.loadConfig layout
  let path := layout.resolve config.ledgerPath
  let (place, disk) ← (disk.openLedger path).mapError (.ledger path)
  pure (⟨layout, config, path, place⟩, disk)

def settings (project : Project) : Settings := project.config.settings

def loadSegmenter (project : Project) (disk : Disk) :
    Except ProjectError Identifier.Segmenter :=
  (project.settings.loadSegmenter disk project.layout.root).mapError .model

def loadBlocklist (project : Project) (disk : Disk) :
    Except ProjectError (Option Blocklist) :=
  (project.settings.loadBlocklist disk project.layout.root).mapError .blocklist

def ledger (project : Project) (disk : Disk) : Except LedgerError Ledger :=
  disk.ledgerAt project.ledgerPlace

def enterRun (project : Project) (disk : Disk) (run : RunRecord) : Except LedgerError Disk := do
  let ledger ← project.ledger disk
  let (_, ledger) ← ledger.insertRun run
  pure (disk.putLedger project.ledgerPlace ledger)

def enterBuild (project : Project) (disk : Disk) (build : BuildRecord) :
    Except LedgerError Disk := do
  let ledger ← project.ledger disk
  let (_, ledger) ← ledger.insertBuild build
  pure (disk.putLedger project.ledgerPlace ledger)

end Project

end SymbolCorpus
