import SymbolCorpus.Instruction.Representation

/-! # Host dumps

What an analysis host tells about one binary: the section that holds its code, the symbols it knows,
and its functions with their representations.
-/

namespace SymbolCorpus

/-- A name that a host knows for an address. -/
structure DumpSymbol where
  address : Address
  fullName : String
  deriving Repr, DecidableEq

namespace DumpSymbol

def toJson (symbol : DumpSymbol) : Json :=
  .ofFields
    [("address", .ofNat symbol.address.toNat), ("full_name", .text symbol.fullName)]

def ofJson? (value : Json) : Option DumpSymbol := do
  let fields ← value.asRecord? ["address", "full_name"]
  let address ← fields.required? "address" Json.asUInt64?
  let fullName ← fields.required? "full_name" Json.asText?
  pure ⟨address, fullName⟩

end DumpSymbol

/-- A function that a host has analysed. -/
structure DumpFunction where
  /-- Its lowest and its highest address, in whatever order the host gives them. -/
  range : AddressRange
  /-- The host has left it out. -/
  isSkipped : Bool
  streams : FunctionStreams
  /-- Its pseudo-C, when it could be decompiled. -/
  pseudoCode : Option String
  deriving Repr, DecidableEq

namespace DumpFunction

/-- The names of the fields, in order. -/
def fieldNames : List String :=
  ["lowest_address", "highest_address", "analysis_skipped", "instructions", "llil", "mlil",
    "pseudo_code"]

def toJson (function : DumpFunction) : Json :=
  .ofFields
    [("lowest_address", .ofNat function.range.first.toNat),
      ("highest_address", .ofNat function.range.last.toNat),
      ("analysis_skipped", .bool function.isSkipped),
      ("instructions", FunctionStreams.streamToJson function.streams.instructions),
      ("llil", FunctionStreams.streamToJson function.streams.llil),
      ("mlil", FunctionStreams.streamToJson function.streams.mlil),
      ("pseudo_code", .ofOption .text function.pseudoCode)]

/-- The function of a document; only its addresses must be given. -/
def ofJson? (value : Json) : Option DumpFunction := do
  let fields ← value.asRecord? fieldNames
  let lowest ← fields.required? "lowest_address" Json.asUInt64?
  let highest ← fields.required? "highest_address" Json.asUInt64?
  let isSkipped ← fields.withDefault? "analysis_skipped" false Json.asBool?
  let instructions ← fields.withDefault? "instructions" [] FunctionStreams.streamOfJson?
  let llil ← fields.withDefault? "llil" [] FunctionStreams.streamOfJson?
  let mlil ← fields.withDefault? "mlil" [] FunctionStreams.streamOfJson?
  let pseudoCode ← fields.withDefault? "pseudo_code" none (Json.asOption? Json.asText?)
  pure ⟨⟨lowest, highest⟩, isSkipped, ⟨instructions, llil, mlil⟩, pseudoCode⟩

end DumpFunction

/-- Everything that a host tells about one binary. -/
structure Dump where
  /-- The section that holds the code, when there is one. -/
  textSection : Option AddressRange
  symbols : List DumpSymbol
  functions : List DumpFunction
  deriving Repr, DecidableEq

namespace Dump

def toJson (dump : Dump) : Json :=
  .ofFields
    [("text_section", .ofOption AddressRange.toJson dump.textSection),
      ("symbols", .ofList DumpSymbol.toJson dump.symbols),
      ("functions", .ofList DumpFunction.toJson dump.functions)]

/-- The dump of a document; everything may be left out. -/
def ofJson? (value : Json) : Option Dump := do
  let fields ← value.asRecord? ["text_section", "symbols", "functions"]
  let textSection ← fields.withDefault? "text_section" none (Json.asOption? AddressRange.ofJson?)
  let symbols ← fields.withDefault? "symbols" [] (Json.asList? DumpSymbol.ofJson?)
  let functions ← fields.withDefault? "functions" [] (Json.asList? DumpFunction.ofJson?)
  pure ⟨textSection, symbols, functions⟩

end Dump

end SymbolCorpus
