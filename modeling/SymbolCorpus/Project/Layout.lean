import SymbolCorpus.Files.Path

/-! # Layout of a project

Where the files of a project are, given its root. The paths are derived from the text of the root
alone.
-/

namespace SymbolCorpus

/-- The paths of a project. -/
structure Layout where
  root : String
  deriving Repr, DecidableEq

namespace Layout

/-- The folder of what the project keeps for itself. -/
def metaFolder (layout : Layout) : String := Path.join layout.root ".namecorpus"

/-- The file of the project's description and settings. -/
def configFile (layout : Layout) : String := Path.join layout.metaFolder "project.json"

def ledgerFile (layout : Layout) : String := Path.join layout.metaFolder "project.db"

/-- The file of the ledger as seen from the root. -/
def relativeLedgerFile : String := ".namecorpus/project.db"

def corpusFolder (layout : Layout) : String := Path.join layout.root "corpus"

/-- The folder of vocabularies and lists. -/
def modelsFolder (layout : Layout) : String := Path.join layout.root "models"

def recordsFolder (layout : Layout) : String := Path.join layout.root "records"

def splitFolder (layout : Layout) (split : String) : String := Path.join layout.corpusFolder split

def resolve (layout : Layout) (path : String) : String := Path.join layout.root path

/-- The name of a project whose root has no name. -/
def unnamed : String := "unnamed-project"

def projectName (layout : Layout) : String := (Path.fileName? layout.root).getD unnamed

end Layout

end SymbolCorpus
