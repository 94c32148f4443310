import Std.Data.HashMap
import SymbolCorpus.Json.Fields

/-! # Addresses

Ranges of addresses with both ends included, and the names known for single addresses. A range is
stored as it is given: its ends may be in the wrong order.
-/

namespace SymbolCorpus

/-- An address, a word of sixty-four bits. -/
abbrev Address := UInt64

/-- The addresses from the first to the last, both included. -/
structure AddressRange where
  first : Address
  last : Address
  deriving Repr, DecidableEq

namespace AddressRange

def contains (range : AddressRange) (address : Address) : Bool :=
  range.first ≤ address && address ≤ range.last

/-- The ends of the other range lie within the ends of this one. -/
def encloses (range other : AddressRange) : Bool :=
  range.first ≤ other.first && other.last ≤ range.last

/-- Each range begins no later than the other ends. -/
def overlaps (range other : AddressRange) : Bool :=
  range.first ≤ other.last && other.first ≤ range.last

/-- The key of a function with this range among those of one binary. -/
def key (range : AddressRange) : String :=
  toString range.first.toNat ++ "_" ++ toString range.last.toNat

def toJson (range : AddressRange) : Json :=
  .ofFields [("start", .ofNat range.first.toNat), ("end", .ofNat range.last.toNat)]

def ofJson? (value : Json) : Option AddressRange := do
  let fields ← value.asRecord? ["start", "end"]
  let first ← fields.required? "start" Json.asUInt64?
  let last ← fields.required? "end" Json.asUInt64?
  pure ⟨first, last⟩

end AddressRange

/-- The names known for addresses, in the form in which they are shown. -/
structure SymbolTable where
  /-- The name of each address that has one. -/
  names : Std.HashMap Address String

namespace SymbolTable

/-- The table of a list; the last name given for an address counts. -/
def ofList (symbols : List (Address × String)) : SymbolTable := ⟨Std.HashMap.ofList symbols⟩

/-- The name of an address. -/
def find? (table : SymbolTable) (address : Address) : Option String := table.names[address]?

end SymbolTable

end SymbolCorpus
