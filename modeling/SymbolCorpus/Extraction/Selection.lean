import SymbolCorpus.Corpus.Record
import SymbolCorpus.Extraction.Dump
import SymbolCorpus.Name.NameMap
import SymbolCorpus.Project.Settings
import SymbolCorpus.PseudoCode.Mask

/-! # Selection of functions

The functions of a dump are looked at in the order of their ranges. One is kept when it lies in the
section of code, has a name, was analysed and decompiled, and overlaps none that was kept before.
-/

namespace SymbolCorpus

/-- What a record is built from besides the function itself. -/
structure ExtractionContext where
  /-- Segments names. -/
  segmenter : Identifier.Segmenter
  /-- How representations are abstracted. -/
  settings : Settings
  /-- The section that holds the code. -/
  textSection : AddressRange
  /-- The names of functions by first address. -/
  names : NameMap
  /-- The names known to the host, in the form in which they are shown. -/
  symbols : SymbolTable
  /-- The names known to the host, in full. -/
  fullNames : SymbolTable

namespace ExtractionContext

def ofDump (segmenter : Identifier.Segmenter) (settings : Settings) (names : NameMap)
    (textSection : AddressRange) (symbols : List DumpSymbol) : ExtractionContext :=
  { segmenter
    settings
    textSection
    names
    symbols := .ofList (symbols.map fun symbol =>
      (symbol.address, String.ofList (segmenter.display symbol.fullName.toList)))
    fullNames := .ofList (symbols.map fun symbol => (symbol.address, symbol.fullName)) }

/-- The pseudo-C of a function with its own name masked: first the name it has in the name map, then
the one the host knows, when they differ. -/
def masked (context : ExtractionContext) (first : Address) (name : String) (text : List Char) :
    List Char :=
  let once := PseudoCode.mask name.toList text
  match context.fullNames.find? first with
  | some fullName => if fullName = name then once else PseudoCode.mask fullName.toList once
  | none => once

/-- The record of a function with a name and pseudo-C; none when the pseudo-C has no tokens. -/
def build? (context : ExtractionContext) (function : DumpFunction) (name : String)
    (text : String) : Option Record :=
  let range := function.range
  let source := context.masked range.first name text.toList
  match PseudoCode.tokenize context.segmenter context.settings.tokenOptions source with
  | .error _ => none
  | .ok tokens =>
      let abstracted := function.streams.abstracted context.settings.threshold.toInt
        ⟨range, context.textSection, context.symbols⟩
      some
        { start := range.first
          address := range.key
          name
          instructions := abstracted.instructions
          llils := abstracted.llils
          mlils := abstracted.mlils
          pseudoCode := tokens.map String.ofList }

/-- The record of a function, other functions left aside: none when it does not lie in the section,
has no name, was skipped, or was not decompiled. -/
def candidate? (context : ExtractionContext) (function : DumpFunction) : Option Record := do
  let name ← context.names.find? function.range.first
  let text ← function.pseudoCode
  if context.textSection.encloses function.range && !function.isSkipped then
    context.build? function name text
  else none

end ExtractionContext

/-- A range comes before another, or they are equal: by first address, then by last. -/
def AddressRange.precedes (range other : AddressRange) : Bool :=
  range.first < other.first || (range.first = other.first && range.last ≤ other.last)

/-- The functions in the order of their ranges; functions of one range keep their order. -/
def scanOrder (functions : List DumpFunction) : List DumpFunction :=
  functions.mergeSort fun function other => function.range.precedes other.range

/-- The records of a scan. A function that overlaps a retained range, or has no record of its own, is
passed over; the range of any other is retained. -/
def scanRecords (candidate? : DumpFunction → Option Record) :
    List AddressRange → List DumpFunction → List Record
  | _, [] => []
  | retained, function :: rest =>
      if retained.any (·.overlaps function.range) then scanRecords candidate? retained rest
      else
        match candidate? function with
        | none => scanRecords candidate? retained rest
        | some record => record :: scanRecords candidate? (function.range :: retained) rest

/-- The records of the functions of a dump under their keys. -/
def selectRecords (context : ExtractionContext) (functions : List DumpFunction) : RecordMap :=
  .ofPairs <| (scanRecords context.candidate? [] (scanOrder functions)).map fun record =>
    (record.address, record)

end SymbolCorpus
