import SymbolCorpus.Corpus.Builder
import SymbolCorpus.Files.Disk
import SymbolCorpus.Json.Reader
import SymbolCorpus.Project.Resource

/-! # Files of a corpus

Records are collected from a folder and all folders in it. A corpus is written as two files for each
representation; the lines of one are the sources and the lines of the other the targets, in the same
order.
-/

namespace SymbolCorpus

/-- Why a file of a corpus could not be used. -/
inductive CorpusError where
  /-- A file or folder could not be read or written. -/
  | file (path : RawPath) (cause : FileError)
  /-- A file of records has not the form it should have. -/
  | malformed (path : RawPath)
  deriving Repr, DecidableEq

/-- What is said of an error. -/
def CorpusError.message : CorpusError → String
  | file path cause => "I/O error on " ++ path.shown ++ ": " ++ cause.message
  | malformed path => "Failed to parse records file " ++ path.shown ++ ": " ++ malformedDocument

/-! ## Records -/

/-- The name of a file of records: it ends as JSON does, but not as host dumps do. A name that is no
text is none. -/
def isRecordsName (name : FileName) : Bool :=
  match name.text? with
  | some text => ".json".toList.isSuffixOf text && !".dump.json".toList.isSuffixOf text
  | none => false

/-- A place comes before another, or they are equal. The first names that differ decide. -/
def Place.precedes : Place → Place → Bool
  | [], _ => true
  | _ :: _, [] => false
  | name :: rest, other :: others =>
      name < other || (name == other && Place.precedes rest others)

def pathIn (folder : RawPath) (place : Place) : RawPath := place.foldl RawPath.child folder

/-- A search for files of records in a folder. Places are those below the folder. -/
structure RecordsSearch where
  /-- The folders that are still to be looked into, with their entries, the next one first. -/
  pending : List (Place × List (FileName × FileTree))
  /-- The files of records found so far, the last one first. -/
  found : List Place

namespace RecordsSearch

/-- The search with what stands at a place, when it has the name of a file of records. -/
def note (search : RecordsSearch) (place : Place) : RecordsSearch :=
  if place.getLast?.any isRecordsName then { search with found := place :: search.found } else search

/-- One entry of the folder at a place. A folder that its path leads to is looked into later; anything
else is taken for a file. -/
def visit (disk : Disk) (folder : RawPath) (place : Place) (search : RecordsSearch)
    (entry : FileName × FileTree) : RecordsSearch :=
  match entry with
  | (name, .folder entries) =>
      if disk.isFolder (pathIn folder (place ++ [name])) then
        { search with pending := (place ++ [name], entries) :: search.pending }
      else search.note (place ++ [name])
  | (name, .file _) => search.note (place ++ [name])

/-- All entries of the folder at a place, as they are listed. -/
def visitAll (disk : Disk) (folder : RawPath) (place : Place) (search : RecordsSearch)
    (entries : List (FileName × FileTree)) : RecordsSearch :=
  entries.foldl (visit disk folder place) search

/-- The number of folders that are still to be looked into, those in pending folders counted. -/
def size (search : RecordsSearch) : Nat :=
  search.pending.foldr (fun (_, entries) others => FileTree.entryCount entries + 1 + others) 0

theorem pending_note (search : RecordsSearch) (place : Place) :
    (search.note place).pending = search.pending := by
  unfold note
  split <;> rfl

theorem size_visit_le (disk : Disk) (folder : RawPath) (place : Place) (search : RecordsSearch)
    (entry : FileName × FileTree) :
    (search.visit disk folder place entry).size ≤ search.size + entry.2.folderCount := by
  fun_cases visit disk folder place search entry with
  | case1 name entries opened =>
      simp only [size, List.foldr_cons, FileTree.folderCount]
      omega
  | case2 name entries closed => simp [size, pending_note]
  | case3 name content => simp [size, pending_note]

/-- Nothing is looked into twice: the entries of a folder add the folders in them and no more. -/
theorem size_visitAll_le (disk : Disk) (folder : RawPath) (place : Place) (search : RecordsSearch)
    (entries : List (FileName × FileTree)) :
    (search.visitAll disk folder place entries).size ≤
      search.size + FileTree.entryCount entries := by
  unfold visitAll
  induction entries generalizing search with
  | nil => simp [FileTree.entryCount]
  | cons entry entries ih =>
      have first := size_visit_le disk folder place search entry
      have others := ih (search.visit disk folder place entry)
      simp only [List.foldl_cons, FileTree.entryCount]
      omega

/-- The files of records that the search comes to, folder after folder. -/
def run (disk : Disk) (folder : RawPath) (search : RecordsSearch) : List Place :=
  match search with
  | ⟨[], found⟩ => found
  | ⟨(place, entries) :: pending, found⟩ =>
      run disk folder (visitAll disk folder place ⟨pending, found⟩ entries)
termination_by search.size
decreasing_by
  have further := size_visitAll_le disk folder place ⟨pending, found⟩ entries
  simp only [size, List.foldr_cons] at further ⊢
  omega

end RecordsSearch

namespace Disk

/-- The paths of the files of records in a folder and the folders in it, in order. -/
def collectRecords (disk : Disk) (folder : RawPath) : Except CorpusError (List RawPath) := do
  let entries ← (disk.entries folder).mapError (.file folder)
  let found := RecordsSearch.run disk folder ⟨[([], entries)], []⟩
  pure ((found.mergeSort Place.precedes).map (pathIn folder))

/-- The records of a file. -/
def loadRecords (disk : Disk) (path : RawPath) : Except CorpusError RecordMap := do
  let octets ← (disk.read path).mapError (.file path)
  match (Json.ofOctets octets).bind RecordMap.ofJson? with
  | some records => .ok records
  | none => .error (.malformed path)

end Disk

/-! ## Sources and targets -/

/-- Two files that belong together, and how many pairs they hold. -/
structure CorpusFiles where
  split : String
  representation : Representation
  /-- How many pairs were written. -/
  pairs : Nat
  /-- How many records were dropped. -/
  dropped : Nat
  sourcePath : String
  targetPath : String
  deriving Repr, DecidableEq

/-- A text of lines, each ended by a newline. -/
def textOfLines (lines : List (List Char)) : List Char := lines.flatMap (· ++ ['\n'])

def corpusPath (folder side split : String) (representation : Representation) : String :=
  Path.join folder (side ++ "-" ++ split ++ "-" ++ representation.tag ++ ".txt")

namespace CorpusBuilder

def filesOf (builder : CorpusBuilder) (folder split : String) (representation : Representation) :
    CorpusFiles :=
  { split
    representation
    pairs := (builder.sources representation).length
    dropped := builder.dropped representation
    sourcePath := corpusPath folder "src" split representation
    targetPath := corpusPath folder "tgt" split representation }

/-- The texts of the files of a representation with their paths, the sources first. -/
def textsOf (builder : CorpusBuilder) (folder split : String) (representation : Representation) :
    List (String × List Char) :=
  let files := builder.filesOf folder split representation
  [(files.sourcePath, textOfLines (builder.sources representation)),
    (files.targetPath, textOfLines (builder.targets representation))]

/-- Writes the files of all representations to a folder, which is made when it is not there. When a
file cannot be written, those before it stay. -/
def write (builder : CorpusBuilder) (disk : Disk) (folder split : String) :
    Disk × Except CorpusError (List CorpusFiles) :=
  match disk.makeFolders folder with
  | .error error => (disk, .error (.file folder error))
  | .ok disk =>
      match disk.writeTexts (Representation.all.flatMap (builder.textsOf folder split)) with
      | (disk, some (path, error)) => (disk, .error (.file path error))
      | (disk, none) => (disk, .ok (Representation.all.map (builder.filesOf folder split)))

end CorpusBuilder

end SymbolCorpus
