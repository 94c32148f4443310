import Std.Data.TreeMap
import SymbolCorpus.Instruction.Representation

/-! # Records

What is kept of one function: its address, its name, and its four representations. The records of a
binary are kept under the keys of their ranges, in the order of the keys.
-/

namespace SymbolCorpus

/-- One function of a corpus. -/
structure Record where
  /-- The first address of the function. -/
  start : Address
  /-- The key of its range. -/
  address : String
  name : String
  instructions : List InstructionText
  /-- The low-level intermediate language. -/
  llils : List InstructionText
  /-- The mid-level intermediate language. -/
  mlils : List InstructionText
  /-- The tokens of the pseudo-C. -/
  pseudoCode : List String
  deriving Repr, DecidableEq

namespace Record

def toJson (record : Record) : Json :=
  .ofFields
    [("start_addr", .ofNat record.start.toNat), ("addr", .text record.address),
      ("name", .text record.name), ("instructions", textsToJson record.instructions),
      ("llils", textsToJson record.llils), ("mlils", textsToJson record.mlils),
      ("pseudo_code", .ofList .text record.pseudoCode)]

def ofJson? (value : Json) : Option Record := do
  let fields ← value.asRecord?
    ["start_addr", "addr", "name", "instructions", "llils", "mlils", "pseudo_code"]
  let start ← fields.required? "start_addr" Json.asUInt64?
  let address ← fields.required? "addr" Json.asText?
  let name ← fields.required? "name" Json.asText?
  let instructions ← fields.required? "instructions" textsOfJson?
  let llils ← fields.required? "llils" textsOfJson?
  let mlils ← fields.required? "mlils" textsOfJson?
  let pseudoCode ← fields.required? "pseudo_code" (Json.asList? Json.asText?)
  pure ⟨start, address, name, instructions, llils, mlils, pseudoCode⟩

end Record

/-- Records under their keys. -/
abbrev RecordMap := Std.TreeMap String Record

namespace RecordMap

/-- The map of a list; the last record given for a key counts. -/
def ofPairs (pairs : List (String × Record)) : RecordMap := Std.TreeMap.ofList pairs

/-- The records in the order of their keys. -/
def records (map : RecordMap) : List Record := map.toList.map (·.2)

def toJson (map : RecordMap) : Json :=
  .ofFields (map.toList.map fun (key, record) => (key, record.toJson))

def ofJson? (value : Json) : Option RecordMap := do
  let fields ← value.asObject?
  let pairs ← fields.mapM fun (key, value) => (Record.ofJson? value).map fun record => (key, record)
  pure (ofPairs pairs)

end RecordMap

end SymbolCorpus
