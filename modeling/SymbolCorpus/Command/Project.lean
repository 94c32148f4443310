import SymbolCorpus.Command.Session
import SymbolCorpus.Json.Writer

/-! # Projects and their ledgers on the command line -/

namespace SymbolCorpus.Command

/-! ## Making a project -/

/-- Makes a folder of a project. -/
def makeFolder (label path : String) : Action Unit := do
  let disk ← Action.disk
  Action.update ((disk.makeFolders path).mapError (.unmadeFolder label path))

/-- Makes a project at a root: its folders, its description, and its ledger. -/
def initProject (root : String) (name : Option String) : Action Unit := do
  let disk ← Action.disk
  let layout : Layout := ⟨rootPath disk root⟩
  let name := name.getD layout.projectName
  makeFolder "meta" layout.metaFolder
  makeFolder "corpus" layout.corpusFolder
  makeFolder "models" layout.modelsFolder
  makeFolder "records" layout.recordsFolder
  let config := ProjectConfig.new name Layout.relativeLedgerFile
  let disk ← Action.disk
  Action.update <|
    (disk.writeText layout.configFile (config.toJson.layOut 0)).mapError
      (.unwritableConfig layout.configFile)
  let disk ← Action.disk
  Action.update <|
    ((disk.openLedger layout.ledgerFile).map (·.2)).mapError (.newLedger layout.ledgerFile)
  Action.printAll
    ["Initialized namecorpus project:",
      "  Name: " ++ name,
      "  Root: " ++ layout.root,
      "  Config: " ++ layout.configFile,
      "  DB path (relative): " ++ config.ledgerPath,
      "  Corpus dir: " ++ layout.corpusFolder,
      "  Models dir: " ++ layout.modelsFolder,
      "  Records dir: " ++ layout.recordsFolder]

/-! ## Telling about a project -/

/-- What is told about a project. -/
structure ProjectReport where
  project : Project
  schemaVersion : Int32
  runs : List RunRecord
  builds : List BuildRecord

namespace ProjectReport

def toJson (report : ProjectReport) : Json :=
  let layout := report.project.layout
  let config := report.project.config
  .ofFields
    [("name", .text config.name), ("root", .text layout.root),
      ("config_file", .text layout.configFile), ("config_version", .text config.version),
      ("db_path", .text report.project.ledgerPath),
      ("schema_version", .ofInt report.schemaVersion.toInt),
      ("available_hosts", .ofList (fun host => .text host.name) AnalysisHost.all),
      ("pipeline", config.settings.toJson),
      ("layout",
        .ofFields
          [("meta_dir", .text layout.metaFolder), ("corpus_dir", .text layout.corpusFolder),
            ("models_dir", .text layout.modelsFolder),
            ("records_dir", .text layout.recordsFolder)]),
      ("extraction_runs", .ofList RunRecord.toJson report.runs),
      ("corpus_builds", .ofList BuildRecord.toJson report.builds)]

/-- Whether a folder is there. -/
def folderLine (disk : Disk) (label path : String) : String :=
  "- " ++ label ++ ": " ++ (if disk.isFolder path then "OK" else "MISSING") ++ " (" ++ path ++ ")"

def word (value : Bool) : String := if value then "true" else "false"

/-- The report in words. -/
def toLines (report : ProjectReport) (disk : Disk) : List String :=
  let layout := report.project.layout
  let config := report.project.config
  let settings := config.settings
  ["namecorpus Project Info",
    "=======================",
    "Name: " ++ config.name,
    "Root: " ++ layout.root,
    "Config file: " ++ layout.configFile,
    "Config version: " ++ config.version,
    "DB path: " ++ report.project.ledgerPath ++ " (schema v" ++
      toString report.schemaVersion.toInt ++ ")",
    "",
    "Pipeline:",
    "  Dialect: " ++ settings.dialect.name,
    "  Keep strings: " ++ word settings.keepStrings,
    "  Keep calls: " ++ word settings.keepCalls,
    "  Numeric threshold: " ++ toString settings.threshold.toInt,
    "  Host: " ++ settings.host ++ " (available: " ++ AnalysisHost.nameList ++ ")",
    "",
    "Directories:",
    folderLine disk "Meta dir (.namecorpus)" layout.metaFolder,
    folderLine disk "Corpus dir" layout.corpusFolder,
    folderLine disk "Models dir" layout.modelsFolder,
    folderLine disk "Records dir" layout.recordsFolder,
    "",
    "Extraction runs: " ++ toString report.runs.length,
    "Corpus builds: " ++ toString report.builds.length]

end ProjectReport

/-- Tells about the project at a root. -/
def projectInfo (root : String) (json : Bool) : Action Unit := do
  let project ← openProject root
  let disk ← Action.disk
  let ledger ← Action.orFail (project.ledger disk) (.entries "runs")
  let runs ← Action.orFail (ledger.listRuns none) (.entries "runs")
  let builds ← Action.orFail (ledger.listBuilds none) (.entries "corpus builds")
  let report : ProjectReport := ⟨project, ledger.version, runs, builds⟩
  if json then Action.print report.toJson.pretty
  else Action.printAll (report.toLines disk)

/-! ## Listing runs -/

/-- Spaces that fill a text up to a width. -/
def blanks (width : Nat) (text : String) : String :=
  String.ofList (List.replicate (width - text.length) ' ')

/-- A text with spaces after it up to a width. -/
def padRight (width : Nat) (text : String) : String := text ++ blanks width text

/-- A text with spaces before it up to a width. -/
def padLeft (width : Nat) (text : String) : String := blanks width text ++ text

def runLine (run : RunRecord) : String :=
  "  ".intercalate
    [run.startedAt, padRight 9 run.status.label,
      padLeft 5 (toString run.functions.toInt) ++ " functions", run.binary, "[" ++ run.host ++ "]"]

/-- Lists the runs of a project, all or those of one binary. -/
def listRuns (root : String) (json : Bool) (binary : Option String) : Action Unit := do
  let project ← openProject root
  let disk ← Action.disk
  let ledger ← Action.orFail (project.ledger disk) (.entries "extraction runs")
  let runs ← Action.orFail (ledger.listRuns binary) (.entries "extraction runs")
  if json then Action.print (Json.ofList RunRecord.toJson runs).pretty
  else if runs.isEmpty then Action.print "No extraction runs recorded."
  else Action.printAll (runs.map runLine)

end SymbolCorpus.Command
