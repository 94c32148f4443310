import SymbolCorpus.Files.Path

/-! # Files beside a binary

What belongs to a binary lies beside it, in files whose names are the whole name of the binary with a
further ending. A file with such an ending is taken for one of these files and for no binary.
-/

namespace SymbolCorpus.Sidecar

def nameMapEnding : String := "name_and_addr"

def recordsEnding : String := "json"

/-- The ending of analysis databases. -/
def databaseEnding : String := "bndb"

def dumpEnding : String := "dump.json"

def nameMapFile (binary : String) : String := Path.withSuffix binary nameMapEnding

def recordsFile (binary : String) : String := Path.withSuffix binary recordsEnding

def dumpFile (binary : String) : String := Path.withSuffix binary dumpEnding

/-- The endings by which files beside a binary are known. -/
def endings : List String := [nameMapEnding, recordsEnding, databaseEnding]

/-- The path names a file beside a binary: its file name ends in a point and one of the endings. -/
def isSidecar (path : String) : Bool :=
  match Path.fileName? path with
  | some name => endings.any fun ending => ('.' :: ending.toList).isSuffixOf name.toList
  | none => false

end SymbolCorpus.Sidecar
