import SymbolCorpus.Json.Reader
import SymbolCorpus.Json.Writer
import SymbolCorpus.Ledger.Basic

/-! # Ledgers as documents

The form in which a ledger is kept in a file.
-/

namespace SymbolCorpus

namespace RunRow

def toJson (row : RunRow) : Json :=
  .ofFields
    [("binary", .text row.binary), ("binary_hash", .ofOption .text row.binaryHash),
      ("host", .text row.host), ("status", .text row.status),
      ("functions", .ofInt row.functions.toInt), ("started_at", .text row.startedAt),
      ("finished_at", .text row.finishedAt)]

def ofJson? (value : Json) : Option RunRow := do
  let fields ← value.asRecord?
    ["binary", "binary_hash", "host", "status", "functions", "started_at", "finished_at"]
  let binary ← fields.required? "binary" Json.asText?
  let binaryHash ← fields.nullable? "binary_hash" Json.asText?
  let host ← fields.required? "host" Json.asText?
  let status ← fields.required? "status" Json.asText?
  let functions ← fields.required? "functions" Json.asInt64?
  let startedAt ← fields.required? "started_at" Json.asText?
  let finishedAt ← fields.required? "finished_at" Json.asText?
  pure ⟨binary, binaryHash, host, status, functions, startedAt, finishedAt⟩

end RunRow

namespace Table

variable {Row : Type}

def toJson (encode : Row → Json) (table : Table Row) : Json :=
  .ofFields [("last_number", .ofNat table.lastNumber), ("rows", .ofList encode table.rows)]

def ofJson? (decode : Json → Option Row) (value : Json) : Option (Table Row) := do
  let fields ← value.asRecord? ["last_number", "rows"]
  let lastNumber ← fields.required? "last_number" Json.asUInt64?
  let rows ← fields.required? "rows" (Json.asList? decode)
  pure ⟨rows, lastNumber.toNat⟩

end Table

namespace Ledger

def toJson (ledger : Ledger) : Json :=
  .ofFields
    [("schema_version", .ofInt ledger.version.toInt),
      ("extraction_runs", .ofOption (Table.toJson RunRow.toJson) ledger.runs),
      ("corpus_builds", .ofOption (Table.toJson BuildRecord.toJson) ledger.builds)]

def versionOfJson? (value : Json) : Option Int32 := do
  let version ← value.asInt64?
  Integer.toInt32? version.toInt

def ofJson? (value : Json) : Option Ledger := do
  let fields ← value.asRecord? ["schema_version", "extraction_runs", "corpus_builds"]
  let version ← fields.required? "schema_version" versionOfJson?
  let runs ← fields.nullable? "extraction_runs" (Table.ofJson? RunRow.ofJson?)
  let builds ← fields.nullable? "corpus_builds" (Table.ofJson? BuildRecord.ofJson?)
  pure ⟨version, runs, builds⟩

def toOctets (ledger : Ledger) : ByteArray := Text.toOctets (ledger.toJson.layOut 0)

def ofOctets? (octets : ByteArray) : Option Ledger := (Json.ofOctets octets).bind ofJson?

end Ledger

end SymbolCorpus
