import SymbolCorpus.Address
import SymbolCorpus.Instruction.Token
import SymbolCorpus.Text.Cut

/-! # Abstraction of instruction tokens

Addresses and large numbers belong to one binary. An address is shown by the name known for it, or by
a placeholder that says whether it lies in the function, in the section, or elsewhere. A number above
a threshold is a placeholder. Every other token is shown by its text.
-/

namespace SymbolCorpus

/-- What surrounds a token: where its function and section lie, and which names are known. -/
structure AddressContext where
  function : AddressRange
  textSection : AddressRange
  /-- The names of addresses. -/
  symbols : SymbolTable

/-- What is abstracted. -/
structure Abstraction where
  /-- Numbers above it become placeholders. -/
  threshold : Int
  /-- The words of string literals are set apart. -/
  spreadStrings : Bool
  deriving Repr, DecidableEq

namespace Abstraction

/-- The placeholder of an address in the function. -/
def localAddress : String := "<LOCADDR>"

/-- The placeholder of an address in the section but not in the function. -/
def sectionAddress : String := "<INTERADDR>"

/-- The placeholder of any other address. -/
def otherAddress : String := "<ADDR>"

/-- The placeholder of a number. -/
def number : String := "<NUM>"

/-- Only numbers that are not positive are shown, and strings as they are. -/
def standard : Abstraction := ⟨0, false⟩

/-- The address that a value stands for, when it has sixty-four bits and no sign. -/
def addressOf? : Int → Option Address
  | .ofNat value => Integer.toUInt64? value
  | .negSucc _ => none

/-- What is shown for the value of an address token. -/
def renderAddress (context : AddressContext) (value : Int) : String :=
  match addressOf? value with
  | none => otherAddress
  | some address =>
      match context.symbols.find? address with
      | some name => name
      | none =>
          if context.function.contains address then localAddress
          else if context.textSection.contains address then sectionAddress
          else otherAddress

/-- A string literal with its quotes set apart by spaces and spaces for low lines. -/
def spreadLiteral (text : List Char) : List Char :=
  Text.trim <| text.flatMap fun c =>
    if c = '"' then [' ', '"', ' '] else if c = '_' then [' '] else [c]

/-- What is shown for a token. -/
def render (abstraction : Abstraction) (context : AddressContext) (token : InstructionToken) :
    String :=
  match token.kind.isAddress, token.value with
  | true, some value => renderAddress context value.val
  | _, value =>
      match token.kind, value with
      | .integer, some value => if value.val ≤ abstraction.threshold then token.text else number
      | .string, _ =>
          if abstraction.spreadStrings then String.ofList (spreadLiteral token.text.toList)
          else token.text
      | _, _ => token.text

end Abstraction

end SymbolCorpus
