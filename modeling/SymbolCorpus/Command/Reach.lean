import SymbolCorpus.Command.Request
import SymbolCorpus.Extraction.Sidecar
import SymbolCorpus.Project.Layout
import SymbolCorpus.Project.Settings

/-! # What a request reaches

The paths of the files that a request may look at. A session needs no other files to be on its disk.
-/

namespace SymbolCorpus.Command

def Request.root : Request → String
  | initProject root _ => root
  | projectInfo root _ => root
  | segment root _ _ _ => root
  | tokenize request => request.root
  | extract root _ _ => root
  | buildCorpus request => request.root
  | listRuns root _ _ => root

/-- A binary and the files beside it. -/
def binaryPaths (layout : Layout) (binary : String) : List String :=
  let path := layout.resolve binary
  [path, Sidecar.nameMapFile path, Sidecar.dumpFile path, Sidecar.recordsFile path]

/-- The paths that the arguments of a request name. -/
def Request.paths (layout : Layout) : Request → List String
  | segment _ config _ _ => config.toList
  | tokenize request => request.file :: request.config.toList
  | extract _ _ binaries => binaries.flatMap (binaryPaths layout)
  | buildCorpus request =>
      [(request.out.map layout.resolve).getD (layout.splitFolder request.split)]
  | _ => []

/-- The folders that a request looks through with all that is in them. -/
def Request.folders (layout : Layout) : Request → List String
  | buildCorpus request => [(request.records.map layout.resolve).getD layout.recordsFolder]
  | _ => []

def projectPaths (layout : Layout) : List String :=
  [layout.root, layout.metaFolder, layout.configFile, layout.corpusFolder, layout.modelsFolder,
    layout.recordsFolder]

def settingsPaths (root : String) (settings : Settings) : List String :=
  (settings.subwordVocabulary.toList ++ settings.wordList.toList ++ settings.blocklist.toList).map
    (Path.join root)

end SymbolCorpus.Command
