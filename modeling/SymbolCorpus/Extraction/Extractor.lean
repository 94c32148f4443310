import SymbolCorpus.Extraction.Host
import SymbolCorpus.Extraction.Selection
import SymbolCorpus.Json.Writer

/-! # Extraction

Extraction turns what lies beside a binary, its name map and its host dump, into a file of records
beside it. Records that are there already are kept unless extraction is forced; when something is
missing nothing is written.
-/

namespace SymbolCorpus

/-- How the extraction of one binary ended. -/
inductive ExtractionOutcome where
  | alreadyDone (output : String)
  | missingNameMap (expected : String)
  /-- The host knows of no section that holds code. -/
  | noTextSection
  /-- Records were written: so many, and so many functions were left out. -/
  | extracted (functions skipped : Nat) (output : String)
  deriving Repr, DecidableEq

/-- Why the extraction of one binary failed. -/
inductive ExtractionError where
  /-- The name map could not be loaded. -/
  | names (cause : NameFileError)
  /-- The host did not load the binary. -/
  | host (cause : HostError)
  /-- The records could not be written. -/
  | unwritable (path : String) (cause : FileError)
  deriving DecidableEq

/-- What is said of an error. -/
def ExtractionError.message : ExtractionError → String
  | names cause => cause.message
  | host cause => cause.message
  | unwritable path cause => "Failed to write " ++ path ++ ": " ++ cause.message

/-- What the extraction of several binaries has in common. -/
structure Extractor where
  /-- Segments names. -/
  segmenter : Identifier.Segmenter
  /-- How representations are abstracted. -/
  settings : Settings
  /-- Leaves out names that say nothing; without it every name is wanted. -/
  blocklist : Option Blocklist
  /-- Knows about binaries. -/
  host : AnalysisHost
  /-- Records that are there already are replaced. -/
  force : Bool

namespace Extractor

/-- Which names are wanted. -/
def nameFilter (extractor : Extractor) : NameFilter :=
  ⟨extractor.blocklist, extractor.settings.methodNames⟩

/-- The records of a dump whose code lies in a section. -/
def select (extractor : Extractor) (names : NameMap) (textSection : AddressRange) (dump : Dump) :
    RecordMap :=
  selectRecords
    (.ofDump extractor.segmenter extractor.settings names textSection dump.symbols) dump.functions

/-- Writes records to a file and answers how many there are and how many functions were left out. -/
def writeRecords (disk : Disk) (output : String) (records : RecordMap) (total : Nat) :
    Disk × Except ExtractionError ExtractionOutcome :=
  match disk.writeText output ((RecordMap.toJson records).layOut 0) with
  | .ok disk => (disk, .ok (.extracted records.size (total - records.size) output))
  | .error error => (disk, .error (.unwritable output error))

/-- Extracts one binary, and answers the disk however that ends. -/
def extract (extractor : Extractor) (disk : Disk) (binary : String) :
    Disk × Except ExtractionError ExtractionOutcome :=
  let output := Sidecar.recordsFile binary
  let nameMapFile := Sidecar.nameMapFile binary
  if !extractor.force && disk.isNonempty output then (disk, .ok (.alreadyDone output))
  else if !disk.isFile nameMapFile then (disk, .ok (.missingNameMap nameMapFile))
  else
    match disk.loadNameMap extractor.nameFilter nameMapFile with
    | .error cause => (disk, .error (.names cause))
    | .ok names =>
        match extractor.host.load disk binary with
        | .error cause => (disk, .error (.host cause))
        | .ok dump =>
            match dump.textSection with
            | none => (disk, .ok .noTextSection)
            | some textSection =>
                writeRecords disk output (extractor.select names textSection dump)
                  dump.functions.length

end Extractor

end SymbolCorpus
