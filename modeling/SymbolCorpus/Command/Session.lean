import SymbolCorpus.Corpus.Files
import SymbolCorpus.Extraction.Host
import SymbolCorpus.Project.Context

/-! # Sessions

A command runs in a session: it reads the disk, the clock and standard input, changes the disk, and
prints lines. What it has done and printed before an error stays.
-/

namespace SymbolCorpus.Command

/-- What a command works on. -/
structure Session where
  disk : Disk
  /-- The time, as it is written down. -/
  now : String
  /-- The octets of standard input. -/
  input : ByteArray
  lines : Array String
  /-- What was noted besides, for standard error. -/
  notes : Array String

namespace Session

/-- A session on a disk at a time, in which nothing was printed. -/
def start (disk : Disk) (now : String) (input : ByteArray) : Session := ⟨disk, now, input, #[], #[]⟩

/-- The text that was printed; every line is ended. -/
def output (session : Session) : String :=
  String.join (session.lines.toList.map (· ++ "\n"))

end Session

/-- Why a command failed. -/
inductive CommandError where
  /-- A folder of the project could not be made. -/
  | unmadeFolder (label path : String) (cause : FileError)
  /-- The description of the project could not be written. -/
  | unwritableConfig (path : String) (cause : FileError)
  /-- The ledger of a new project could not be opened. -/
  | newLedger (path : String) (cause : LedgerError)
  /-- The project could not be used. -/
  | project (cause : ProjectError)
  /-- The settings could not be loaded. -/
  | settings (cause : SettingsError)
  /-- The segmenter could not be loaded. -/
  | model (cause : ModelError)
  /-- Standard input is no text. -/
  | unreadableInput
  /-- The file of pseudo-C could not be read. -/
  | unreadableSource (path : String) (cause : FileError)
  /-- The pseudo-C has no tokens. -/
  | untokenizable (path : String) (cause : PseudoCode.TokenizeError)
  | unknownHost (name : String)
  /-- A run could not be entered into the ledger. -/
  | runEntry (binary : String) (cause : LedgerError)
  /-- Some binaries could not be extracted. -/
  | failedBinaries (failed total : Nat)
  /-- The folder of records could not be searched. -/
  | scan (folder : String) (cause : CorpusError)
  /-- A file of records could not be loaded. -/
  | records (cause : CorpusError)
  /-- The corpus could not be written. -/
  | unwritableCorpus (folder : String) (cause : CorpusError)
  /-- A build could not be entered into the ledger. -/
  | buildEntry (cause : LedgerError)
  /-- The entries of the ledger could not be read. -/
  | entries (what : String) (cause : LedgerError)
  deriving DecidableEq

/-- What is said of an error. -/
def CommandError.message : CommandError → String
  | unmadeFolder label path _ => "Failed to create " ++ label ++ " dir: " ++ path
  | unwritableConfig path _ => "Failed to write project config: " ++ path
  | newLedger path _ => "Failed to initialize project database at " ++ path
  | project cause => cause.message
  | settings cause => cause.message
  | model cause => (ProjectError.model cause).message
  | unreadableInput => "Failed to read source from stdin"
  | unreadableSource path _ => "Failed to read source file " ++ path
  | untokenizable path _ => "Failed to tokenize " ++ path
  | unknownHost name =>
      "Unknown analysis host '" ++ name ++ "' (available: " ++ AnalysisHost.nameList ++ ")"
  | runEntry binary _ => "Failed to record extraction run for " ++ binary
  | failedBinaries failed total =>
      toString failed ++ " of " ++ toString total ++ " binaries failed to extract"
  | scan folder _ => "Failed to scan records in " ++ folder
  | records cause => cause.message
  | unwritableCorpus folder _ => "Failed to write corpus to " ++ folder
  | buildEntry _ => "Failed to record corpus build"
  | entries what _ => "Failed to list " ++ what

/-- A step of a command, which may fail. -/
abbrev Action := ExceptT CommandError (StateM Session)

namespace Action

def disk : Action Disk := do
  let session ← get
  pure session.disk

/-- Puts another disk in the place of the disk. -/
def setDisk (disk : Disk) : Action Unit := modify fun session => { session with disk }

def print (line : String) : Action Unit :=
  modify fun session => { session with lines := session.lines.push line }

def printAll (lines : List String) : Action Unit :=
  modify fun session => { session with lines := session.lines ++ lines.toArray }

/-- Notes something for standard error. -/
def note (text : String) : Action Unit :=
  modify fun session => { session with notes := session.notes.push text }

/-- The time. -/
def now : Action String := do
  let session ← get
  pure session.now

/-- The answer, or the failure of the command. -/
def orFail {α ε : Type} (answer : Except ε α) (error : ε → CommandError) : Action α :=
  match answer with
  | .ok value => pure value
  | .error cause => throw (error cause)

/-- The disk is changed as answered, or the command fails and the disk stays. -/
def update (change : Except CommandError Disk) : Action Unit := do
  let disk ← orFail change id
  setDisk disk

end Action

/-- The path of a project root: where relative paths start when it is the folder itself, else without
folders above in it. What is not there is taken from where relative paths start. -/
def rootPath (disk : Disk) (root : String) : String :=
  if Path.isHere root then disk.herePath
  else
    match disk.canonical root with
    | .ok path => path
    | .error _ => Path.join disk.herePath root

def openProject (root : String) : Action Project := do
  let disk ← Action.disk
  let (project, disk) ← Action.orFail (Project.open? disk (rootPath disk root)) .project
  Action.setDisk disk
  pure project

/-- The project root and the settings of a command that needs no project: those of a file when one is
given, else those of the project when there is one, else the standard ones. -/
def resolveSettings (root : String) (config : Option String) : Action (String × Settings) := do
  let disk ← Action.disk
  let path := rootPath disk root
  let layout : Layout := ⟨path⟩
  match config with
  | some file =>
      let settings ← Action.orFail (disk.loadSettings file) .settings
      pure (path, settings)
  | none =>
      if disk.isFile layout.configFile then
        let config ← Action.orFail (disk.loadConfig layout) .project
        pure (path, config.settings)
      else pure (path, .standard)

end SymbolCorpus.Command
