import SymbolCorpus.Corpus.Record
import SymbolCorpus.Identifier.Segmenter

/-! # Lines of a corpus

A record is rendered as one source line for each representation and one target line, its segmented
name. The target of a call is segmented too, so that sources and targets share a vocabulary.
-/

namespace SymbolCorpus

open Identifier Text

/-- Texts with a space between them; empty ones are left out. -/
def joinNonempty (texts : List (List Char)) : List Char :=
  joinWith [' '] (texts.filter (!·.isEmpty))

/-- A text in angle brackets, which stands for something and is shown as it is. -/
def isPlaceholder (text : List Char) : Bool :=
  2 < text.length && text.head? == some '<' && text.getLast? == some '>'

namespace InstructionText

/-- The target of a call: its third text. -/
def renderCallee (segmenter : Segmenter) (instruction : InstructionText) : List Char :=
  match instruction[2]? with
  | none => []
  | some text =>
      let callee := trim text.toList
      if isPlaceholder callee then callee else segmenter.display callee

/-- A call with its target. -/
def renderCall (segmenter : Segmenter) (instruction : InstructionText) : List Char :=
  joinNonempty ["call".toList, renderCallee segmenter instruction]

/-- The texts of an instruction without white space around them. -/
def renderPlain (instruction : InstructionText) : List Char :=
  joinNonempty (instruction.map fun text => trim text.toList)

/-- The texts of an instruction as they are, with a space between any two. -/
def renderVerbatim (instruction : InstructionText) : List Char :=
  joinWith [' '] (instruction.map String.toList)

def renderNative (segmenter : Segmenter) (instruction : InstructionText) : List Char :=
  match instruction.head? with
  | some "call" => renderCall segmenter instruction
  | _ => renderPlain instruction

/-- An instruction of the low-level language, where a condition is kept as it is. -/
def renderLowLevel (segmenter : Segmenter) (instruction : InstructionText) : List Char :=
  match instruction.head? with
  | some "call" => renderCall segmenter instruction
  | some head =>
      if "if".toList.isPrefixOf head.toList then renderVerbatim instruction
      else renderPlain instruction
  | none => []

end InstructionText

namespace Record

def renderSource (segmenter : Segmenter) (record : Record) : Representation → List Char
  | .instructions =>
      joinNonempty (record.instructions.map (InstructionText.renderNative segmenter))
  | .llil => joinNonempty (record.llils.map (InstructionText.renderLowLevel segmenter))
  | .mlil => joinNonempty (record.mlils.map InstructionText.renderPlain)
  | .pseudoCode => joinWith [' '] (record.pseudoCode.map String.toList)

/-- The target line, empty when the name has no letter. -/
def renderTarget (segmenter : Segmenter) (record : Record) : List Char :=
  segmenter.display record.name.toList

end Record

end SymbolCorpus
