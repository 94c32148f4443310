import SymbolCorpus.Instruction.Abstraction

/-! # Representations of code

A function is represented four times: by its native instructions, by two intermediate languages, and
by pseudo-C. The first three are streams of instructions, which are abstracted token by token.
-/

namespace SymbolCorpus

/-- One of the four representations of a function. -/
inductive Representation where
  | instructions
  /-- The low-level intermediate language. -/
  | llil
  /-- The mid-level intermediate language. -/
  | mlil
  /-- The pseudo-C of a decompiler. -/
  | pseudoCode
  deriving Repr, DecidableEq

namespace Representation

/-- All representations, in the order in which corpora are written. -/
def all : List Representation := [instructions, llil, mlil, pseudoCode]

/-- The name of a representation in documents. -/
def label : Representation → String
  | instructions => "instructions"
  | llil => "llil"
  | mlil => "mlil"
  | pseudoCode => "pseudo_code"

/-- The short name of a representation in the names of corpus files. -/
def tag : Representation → String
  | instructions => "inst"
  | llil => "llil"
  | mlil => "mlil"
  | pseudoCode => "pc"

/-- The representation of a name. -/
def ofLabel? (text : String) : Option Representation := all.find? (·.label == text)

/-- A name is read back as its representation. -/
@[simp] theorem ofLabel?_label (representation : Representation) :
    ofLabel? representation.label = some representation := by
  cases representation <;> rfl

end Representation

/-- The texts shown for the tokens of one instruction. -/
abbrev InstructionText := List String

structure FunctionStreams where
  instructions : List (List InstructionToken)
  /-- The low-level intermediate language. -/
  llil : List (List InstructionToken)
  /-- The mid-level intermediate language. -/
  mlil : List (List InstructionToken)
  deriving Repr, DecidableEq

/-- The instruction streams of a function after abstraction. -/
structure AbstractedFunction where
  instructions : List InstructionText
  /-- The low-level intermediate language. -/
  llils : List InstructionText
  /-- The mid-level intermediate language. -/
  mlils : List InstructionText
  deriving Repr, DecidableEq

/-- A stream after abstraction. Strings are spread in the mid-level language only. -/
def abstractStream (threshold : Int) (context : AddressContext) (representation : Representation)
    (stream : List (List InstructionToken)) : List InstructionText :=
  stream.map (·.map (Abstraction.render ⟨threshold, representation = .mlil⟩ context))

/-- The three streams of a function after abstraction. -/
def FunctionStreams.abstracted (streams : FunctionStreams) (threshold : Int)
    (context : AddressContext) : AbstractedFunction :=
  { instructions := abstractStream threshold context .instructions streams.instructions
    llils := abstractStream threshold context .llil streams.llil
    mlils := abstractStream threshold context .mlil streams.mlil }

namespace FunctionStreams

def streamToJson (stream : List (List InstructionToken)) : Json :=
  .ofList (.ofList InstructionToken.toJson) stream

def streamOfJson? : Json → Option (List (List InstructionToken)) :=
  Json.asList? (Json.asList? InstructionToken.ofJson?)

def toJson (streams : FunctionStreams) : Json :=
  .ofFields
    [("instructions", streamToJson streams.instructions), ("llil", streamToJson streams.llil),
      ("mlil", streamToJson streams.mlil)]

/-- The streams of a document; one that is left out is empty. -/
def ofJson? (value : Json) : Option FunctionStreams := do
  let fields ← value.asRecord? ["instructions", "llil", "mlil"]
  let instructions ← fields.withDefault? "instructions" [] streamOfJson?
  let llil ← fields.withDefault? "llil" [] streamOfJson?
  let mlil ← fields.withDefault? "mlil" [] streamOfJson?
  pure ⟨instructions, llil, mlil⟩

end FunctionStreams

def textsToJson (texts : List InstructionText) : Json := .ofList (.ofList .text) texts

def textsOfJson? : Json → Option (List InstructionText) :=
  Json.asList? (Json.asList? Json.asText?)

namespace AbstractedFunction

/-- The streams as a document. -/
def toJson (function : AbstractedFunction) : Json :=
  .ofFields
    [("instructions", textsToJson function.instructions), ("llils", textsToJson function.llils),
      ("mlils", textsToJson function.mlils)]

/-- The streams of a document. -/
def ofJson? (value : Json) : Option AbstractedFunction := do
  let fields ← value.asRecord? ["instructions", "llils", "mlils"]
  let instructions ← fields.required? "instructions" textsOfJson?
  let llils ← fields.required? "llils" textsOfJson?
  let mlils ← fields.required? "mlils" textsOfJson?
  pure ⟨instructions, llils, mlils⟩

end AbstractedFunction

end SymbolCorpus
