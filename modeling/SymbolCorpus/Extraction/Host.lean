import SymbolCorpus.Extraction.Dump
import SymbolCorpus.Extraction.Sidecar
import SymbolCorpus.Project.Resource

/-! # Analysis hosts

A host loads what is known about a binary. Hosts are chosen by name; there is one, which reads a dump
that was exported beforehand and lies beside the binary.
-/

namespace SymbolCorpus

/-- A source of host dumps. -/
inductive AnalysisHost where
  | jsonDump
  deriving Repr, DecidableEq

namespace AnalysisHost

def name : AnalysisHost → String
  | jsonDump => Settings.standardHost

/-- All hosts, in the order of their names. -/
def all : List AnalysisHost := [jsonDump]

def ofName? (text : String) : Option AnalysisHost := all.find? (·.name == text)

/-- The names of all hosts, as they are listed in messages. -/
def nameList : String := ", ".intercalate (all.map name)

end AnalysisHost

/-- Why a host did not load a binary. -/
inductive HostError where
  | missingDump (binary dump : String)
  /-- The dump could not be read. -/
  | unreadable (path : String) (cause : FileError)
  /-- The dump has not the form it should have. -/
  | malformed (path : String)
  deriving Repr, DecidableEq

/-- What is said of an error. -/
def HostError.message : HostError → String
  | missingDump binary dump => "No host dump for " ++ binary ++ " (expected " ++ dump ++ ")"
  | unreadable path cause => "Failed to read host dump " ++ path ++ ": " ++ cause.message
  | malformed path => "Failed to parse host dump " ++ path ++ ": " ++ malformedDocument

/-- What the host that reads dumps knows about a binary. -/
def Disk.loadDump (disk : Disk) (binary : String) : Except HostError Dump := do
  let path := Sidecar.dumpFile binary
  if !disk.isFile path then .error (.missingDump binary path)
  else
    let octets ← (disk.read path).mapError (.unreadable path)
    match (Json.ofOctets octets).bind Dump.ofJson? with
    | some dump => .ok dump
    | none => .error (.malformed path)

/-- What a host knows about a binary. -/
def AnalysisHost.load (host : AnalysisHost) (disk : Disk) (binary : String) :
    Except HostError Dump :=
  match host with
  | jsonDump => disk.loadDump binary

end SymbolCorpus
