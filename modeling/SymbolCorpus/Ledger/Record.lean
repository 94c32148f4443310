import SymbolCorpus.Json.Fields
import SymbolCorpus.Text.Lowering

/-! # What a project remembers

The outcome of one attempt to extract a binary, and of one pair of corpus files that was written, with
their forms as documents.
-/

namespace SymbolCorpus

/-- How an extraction run ended. -/
inductive RunStatus where
  /-- Records were written. -/
  | succeeded
  /-- There was nothing to do. -/
  | skipped
  | failed
  deriving Repr, DecidableEq

namespace RunStatus

/-- The name of a status. -/
def label : RunStatus → String
  | succeeded => "succeeded"
  | skipped => "skipped"
  | failed => "failed"

/-- The status of a name. -/
def ofLabel? : String → Option RunStatus
  | "succeeded" => some succeeded
  | "skipped" => some skipped
  | "failed" => some failed
  | _ => none

/-- A name is read back as its status. -/
@[simp] theorem ofLabel?_label (status : RunStatus) : ofLabel? status.label = some status := by
  cases status <;> rfl

def lowered (text : String) : String := String.ofList (Text.lowercaseText text.toList)

/-- The status of a name in any case. -/
def parse? (text : String) : Option RunStatus := ofLabel? (lowered text)

def unknownMessage (text : String) : String := "Unknown run status '" ++ lowered text ++ "'"

end RunStatus

/-- One attempt to extract one binary. -/
structure RunRecord where
  binary : String
  /-- The digest of the binary, when it could be read. -/
  binaryHash : Option String
  host : String
  /-- How the run ended. -/
  status : RunStatus
  /-- How many functions were written. -/
  functions : Int64
  startedAt : String
  /-- When the run ended. -/
  finishedAt : String
  deriving DecidableEq

namespace RunRecord

def toJson (run : RunRecord) : Json :=
  .ofFields
    [("binary", .text run.binary), ("binary_hash", .ofOption .text run.binaryHash),
      ("host", .text run.host), ("status", .text run.status.label),
      ("functions", .ofInt run.functions.toInt), ("started_at", .text run.startedAt),
      ("finished_at", .text run.finishedAt)]

def ofJson? (value : Json) : Option RunRecord := do
  let fields ← value.asRecord?
    ["binary", "binary_hash", "host", "status", "functions", "started_at", "finished_at"]
  let binary ← fields.required? "binary" Json.asText?
  let binaryHash ← fields.nullable? "binary_hash" Json.asText?
  let host ← fields.required? "host" Json.asText?
  let status ← fields.required? "status" (Json.asNamed? RunStatus.ofLabel?)
  let functions ← fields.required? "functions" Json.asInt64?
  let startedAt ← fields.required? "started_at" Json.asText?
  let finishedAt ← fields.required? "finished_at" Json.asText?
  pure ⟨binary, binaryHash, host, status, functions, startedAt, finishedAt⟩

end RunRecord

/-- One pair of corpus files that was written. -/
structure BuildRecord where
  split : String
  representation : String
  /-- How many pairs were written. -/
  pairs : Int64
  /-- How many records were dropped. -/
  dropped : Int64
  sourcePath : String
  targetPath : String
  /-- When the files were written. -/
  createdAt : String
  deriving DecidableEq

namespace BuildRecord

def toJson (build : BuildRecord) : Json :=
  .ofFields
    [("split", .text build.split), ("representation", .text build.representation),
      ("pairs", .ofInt build.pairs.toInt), ("dropped", .ofInt build.dropped.toInt),
      ("src_path", .text build.sourcePath), ("tgt_path", .text build.targetPath),
      ("created_at", .text build.createdAt)]

def ofJson? (value : Json) : Option BuildRecord := do
  let fields ← value.asRecord?
    ["split", "representation", "pairs", "dropped", "src_path", "tgt_path", "created_at"]
  let split ← fields.required? "split" Json.asText?
  let representation ← fields.required? "representation" Json.asText?
  let pairs ← fields.required? "pairs" Json.asInt64?
  let dropped ← fields.required? "dropped" Json.asInt64?
  let sourcePath ← fields.required? "src_path" Json.asText?
  let targetPath ← fields.required? "tgt_path" Json.asText?
  let createdAt ← fields.required? "created_at" Json.asText?
  pure ⟨split, representation, pairs, dropped, sourcePath, targetPath, createdAt⟩

end BuildRecord

end SymbolCorpus
