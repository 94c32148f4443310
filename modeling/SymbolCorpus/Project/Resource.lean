import SymbolCorpus.Files.Disk
import SymbolCorpus.Json.Reader
import SymbolCorpus.Name.NameMap
import SymbolCorpus.Project.Settings
import SymbolCorpus.Yaml.Reader

/-! # Resources

The files that settings refer to, and the files of settings themselves, read from the disk. A path in
settings is taken from the root of the project unless it is absolute.
-/

namespace SymbolCorpus

/-- What is said of a document that has not the form it should have. -/
def malformedDocument : String := "the document does not have the expected form"

/-! ## Subword vocabulary and word list -/

/-- Why a segmenter could not be loaded. -/
inductive ModelError where
  /-- A file could not be read. -/
  | unreadable (path : String) (cause : FileError)
  /-- A line of the vocabulary is no piece with a score. -/
  | malformed (path : String) (line : Identifier.MalformedLine)
  deriving DecidableEq

/-- What is said of an error. -/
def ModelError.message : ModelError → String
  | unreadable path cause => "Failed to read " ++ path ++ ": " ++ cause.message
  | malformed path line =>
      "Malformed subword vocabulary line " ++ toString line.number ++ " in " ++ path ++ ": " ++
        String.ofList (Text.quote line.content)

namespace Disk

/-- The text of a file that a segmenter is built from. -/
def readModelText (disk : Disk) (path : String) : Except ModelError (List Char) :=
  (disk.readText path).mapError (.unreadable path)

/-- The dictionary of a word list; without one it is empty. -/
def loadDictionary (disk : Disk) : Option String → Except ModelError Identifier.Dictionary
  | none => .ok .empty
  | some path => (disk.readModelText path).map .ofText

/-- The subword model of a vocabulary; without one, words stay whole. -/
def loadModel (disk : Disk) : Option String → Except ModelError Identifier.SubwordModel
  | none => .ok .whole
  | some path => do
      let text ← disk.readModelText path
      ((Identifier.Unigram.ofText text).map .unigram).mapError (.malformed path)

/-- The segmenter of a vocabulary and a word list. The word list is read first. -/
def loadSegmenter (disk : Disk) (vocabulary wordList : Option String) :
    Except ModelError Identifier.Segmenter := do
  let dictionary ← disk.loadDictionary wordList
  let model ← disk.loadModel vocabulary
  pure ⟨model, dictionary⟩

end Disk

/-! ## Blocklist and name map -/

/-- Why a file of names could not be loaded. -/
inductive NameFileError where
  /-- A file could not be read. -/
  | unreadable (path : String) (cause : FileError)
  /-- A name map has not the form it should have. -/
  | malformed (path : String)
  deriving DecidableEq

/-- What is said of an error. -/
def NameFileError.message : NameFileError → String
  | unreadable path cause => "Failed to read " ++ path ++ ": " ++ cause.message
  | malformed path => "Failed to parse name map " ++ path ++ ": " ++ malformedDocument

namespace Disk

def loadBlocklist (disk : Disk) (path : String) : Except NameFileError Blocklist :=
  ((disk.readText path).map .ofText).mapError (.unreadable path)

def loadNameMap (disk : Disk) (filter : NameFilter) (path : String) :
    Except NameFileError NameMap := do
  let text ← (disk.readText path).mapError (.unreadable path)
  match (Json.read text).bind (NameMap.ofJson? filter) with
  | some names => .ok names
  | none => .error (.malformed path)

end Disk

/-! ## Settings -/

namespace Settings

def loadSegmenter (settings : Settings) (disk : Disk) (root : String) :
    Except ModelError Identifier.Segmenter :=
  disk.loadSegmenter (settings.subwordVocabulary.map (Path.join root))
    (settings.wordList.map (Path.join root))

/-- The blocklist that the settings refer to, empty without a reference; none when names are not to be
filtered. -/
def loadBlocklist (settings : Settings) (disk : Disk) (root : String) :
    Except NameFileError (Option Blocklist) :=
  if settings.filterMeaningless then
    match settings.blocklist with
    | some path => (disk.loadBlocklist (Path.join root path)).map some
    | none => .ok (some .empty)
  else .ok none

end Settings

/-- Why settings could not be loaded. -/
inductive SettingsError where
  /-- The file could not be read. -/
  | unreadable (path : String) (cause : FileError)
  /-- The file holds no settings in JSON. -/
  | malformedJson
  /-- The file holds no settings in YAML. -/
  | malformedYaml
  deriving DecidableEq

/-- What is said of an error. -/
def SettingsError.message : SettingsError → String
  | unreadable path _ => "Failed to read pipeline config at " ++ path
  | malformedJson => "Failed to parse pipeline config JSON"
  | malformedYaml => "Failed to parse pipeline config YAML"

/-- The settings of a file: in JSON when its extension says so, else in YAML. -/
def Disk.loadSettings (disk : Disk) (path : String) : Except SettingsError Settings := do
  let octets ← (disk.read path).mapError (.unreadable path)
  if Path.extension? path = some "json" then
    match (Json.ofOctets octets).bind Settings.ofJson? with
    | some settings => .ok settings
    | none => .error .malformedJson
  else
    match (Yaml.ofOctets octets).bind Settings.ofYaml? with
    | some settings => .ok settings
    | none => .error .malformedYaml

end SymbolCorpus
