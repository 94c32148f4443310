import SymbolCorpus.Command.Project
import SymbolCorpus.Command.Request

/-! # Building a corpus on the command line -/

namespace SymbolCorpus.Command

/-- A corpus with the records of files added, file after file. -/
def addFiles (disk : Disk) : CorpusBuilder → List RawPath → Except CorpusError CorpusBuilder
  | builder, [] => .ok builder
  | builder, path :: rest => do
      let records ← disk.loadRecords path
      addFiles disk (builder.addRecords records) rest

def writeCorpus (builder : CorpusBuilder) (folder split : String) : Action (List CorpusFiles) := do
  let disk ← Action.disk
  let (disk, files) := builder.write disk folder split
  Action.setDisk disk
  Action.orFail files (.unwritableCorpus folder)

/-- The entry of corpus files in the ledger. -/
def buildRecord (createdAt : String) (files : CorpusFiles) : BuildRecord :=
  ⟨files.split, files.representation.tag, Int64.ofNat files.pairs, Int64.ofNat files.dropped,
    files.sourcePath, files.targetPath, createdAt⟩

/-- The line of an entry. -/
def buildLine (build : BuildRecord) : String :=
  "  " ++ padRight 12 build.representation ++ " " ++ toString build.pairs.toInt ++ " pairs, " ++
    toString build.dropped.toInt ++ " dropped -> " ++ build.sourcePath

/-- Enters a build into the ledger and prints it. -/
def enterBuild (project : Project) (build : BuildRecord) : Action Unit := do
  let disk ← Action.disk
  Action.update ((project.enterBuild disk build).mapError .buildEntry)
  Action.print (buildLine build)

/-- Builds a corpus from all records in a folder. Nothing is written before all are loaded. -/
def buildCorpus (request : BuildRequest) : Action Unit := do
  let project ← openProject request.root
  let layout := project.layout
  let recordsFolder := (request.records.map layout.resolve).getD layout.recordsFolder
  let folder := (request.out.map layout.resolve).getD (layout.splitFolder request.split)
  let disk ← Action.disk
  let segmenter ← Action.orFail (project.loadSegmenter disk) .project
  let paths ← Action.orFail (disk.collectRecords recordsFolder) (.scan recordsFolder)
  let builder ← Action.orFail (addFiles disk (.empty segmenter request.dedup) paths) .records
  let files ← writeCorpus builder folder request.split
  let createdAt ← Action.now
  Action.print <|
    "Corpus split '" ++ request.split ++ "' from " ++ toString paths.length ++ " records files:"
  (files.map (buildRecord createdAt)).forM (enterBuild project)

end SymbolCorpus.Command
