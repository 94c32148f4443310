import SymbolCorpus.Command.Session
import SymbolCorpus.Extraction.Extractor
import SymbolCorpus.Files.Digest

/-! # Extraction on the command line

Every binary leaves one entry in the ledger, whether it was extracted, skipped or failed. A binary
that fails does not keep the next one from being extracted.
-/

namespace SymbolCorpus.Command

/-- What is printed about an outcome. -/
def outcomeLine (path : String) : ExtractionOutcome → String
  | .extracted functions skipped output =>
      path ++ ": " ++ toString functions ++ " functions -> " ++ output ++ " (" ++
        toString skipped ++ " skipped)"
  | .alreadyDone output => path ++ ": already extracted (" ++ output ++ ")"
  | .missingNameMap expected => path ++ ": missing name map " ++ expected
  | .noTextSection => path ++ ": no .text section"

/-- How an outcome is entered into the ledger: its status and the number of functions. -/
def outcomeStatus : ExtractionOutcome → RunStatus × Int64
  | .extracted functions _ _ => (.succeeded, Int64.ofNat functions)
  | _ => (.skipped, 0)

/-- Extracts a binary and answers how that is entered into the ledger. A failure is noted and prints
nothing. -/
def extractPath (extractor : Extractor) (path : String) : Action (RunStatus × Int64) := do
  let disk ← Action.disk
  let (disk, ending) := extractor.extract disk path
  Action.setDisk disk
  match ending with
  | .error error =>
      Action.note (path ++ ": " ++ error.message)
      pure (.failed, 0)
  | .ok outcome =>
      Action.print (outcomeLine path outcome)
      pure (outcomeStatus outcome)

/-- Extracts a binary and enters the run into the ledger. -/
def extractBinary (project : Project) (extractor : Extractor) (binary : String) :
    Action RunStatus := do
  let path := project.layout.resolve binary
  let startedAt ← Action.now
  let disk ← Action.disk
  let binaryHash := (disk.digest path).toOption
  let (status, functions) ← extractPath extractor path
  let finishedAt ← Action.now
  let run : RunRecord :=
    ⟨path, binaryHash, extractor.host.name, status, functions, startedAt, finishedAt⟩
  let disk ← Action.disk
  Action.update ((project.enterRun disk run).mapError (.runEntry binary))
  pure status

/-- Extracts binaries one after another and answers how many failed. Files beside binaries are passed
over. -/
def extractAll (project : Project) (extractor : Extractor) : List String → Action Nat
  | [] => pure 0
  | binary :: rest => do
      if Sidecar.isSidecar (project.layout.resolve binary) then extractAll project extractor rest
      else
        let status ← extractBinary project extractor binary
        let failed ← extractAll project extractor rest
        pure (if status = .failed then failed + 1 else failed)

def extractorOf (project : Project) (force : Bool) : Action Extractor := do
  let settings := project.settings
  match AnalysisHost.ofName? settings.host with
  | none => throw (.unknownHost settings.host)
  | some host =>
      let disk ← Action.disk
      let segmenter ← Action.orFail (project.loadSegmenter disk) .project
      let blocklist ← Action.orFail (project.loadBlocklist disk) .project
      pure { segmenter, settings, blocklist, host, force }

/-- Extracts binaries of a project. When some fail the command fails in the end. -/
def extract (root : String) (force : Bool) (binaries : List String) : Action Unit := do
  let project ← openProject root
  let extractor ← extractorOf project force
  let failed ← extractAll project extractor binaries
  if failed ≠ 0 then throw (.failedBinaries failed binaries.length)

end SymbolCorpus.Command
