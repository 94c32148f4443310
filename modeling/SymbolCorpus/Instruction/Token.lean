import SymbolCorpus.Json.Fields

/-! # Tokens of instructions

An instruction of a function is given as tokens. A token has a kind, the text that is shown for it,
and for numbers and addresses a value, which is wide enough for addresses without a sign and for
immediates with one.
-/

namespace SymbolCorpus

inductive TokenKind where
  | codeRelativeAddress
  /-- A number that may be an address. -/
  | possibleAddress
  | integer
  | string
  | nameFunction
  | nameVariable
  | nameRegister
  | nameLabel
  | nameCondition
  | nameOther
  | operator
  | comment
  /-- White space. -/
  | whitespace
  /-- Anything else. -/
  | other
  deriving Repr, DecidableEq

namespace TokenKind

/-- The name of a kind in documents. -/
def label : TokenKind → String
  | codeRelativeAddress => "code_relative_address"
  | possibleAddress => "possible_address"
  | integer => "integer"
  | string => "string"
  | nameFunction => "name_function"
  | nameVariable => "name_variable"
  | nameRegister => "name_register"
  | nameLabel => "name_label"
  | nameCondition => "name_condition"
  | nameOther => "name_other"
  | operator => "operator"
  | comment => "comment"
  | whitespace => "whitespace"
  | other => "other"

def all : List TokenKind :=
  [codeRelativeAddress, possibleAddress, integer, string, nameFunction, nameVariable, nameRegister,
    nameLabel, nameCondition, nameOther, operator, comment, whitespace, other]

/-- The kind of a name. -/
def ofLabel? (text : String) : Option TokenKind := all.find? (·.label == text)

/-- A name is read back as its kind. -/
@[simp] theorem ofLabel?_label (kind : TokenKind) : ofLabel? kind.label = some kind := by
  cases kind <;> rfl

/-- The kinds whose value is an address. -/
def isAddress (kind : TokenKind) : Bool :=
  kind = codeRelativeAddress || kind = possibleAddress

end TokenKind

/-- One more than the greatest number of one hundred and twenty-eight bits with a sign. -/
def TokenValue.limit : Int := 0x80000000000000000000000000000000

/-- The value of a token: a signed number of one hundred and twenty-eight bits. -/
structure TokenValue where
  val : Int
  /-- It is not below the least such number. -/
  lower : -TokenValue.limit ≤ val := by decide
  /-- It is not above the greatest such number. -/
  upper : val < TokenValue.limit := by decide
  deriving Repr, DecidableEq

namespace TokenValue

def ofInt? (value : Int) : Option TokenValue :=
  if h : -limit ≤ value ∧ value < limit then some ⟨value, h.1, h.2⟩ else none

/-- A number in range is the value of itself. -/
@[simp] theorem ofInt?_val (value : TokenValue) : ofInt? value.val = some value := by
  exact dif_pos ⟨value.lower, value.upper⟩

/-- The value of a document. Minus zero is zero. -/
def ofJson? : Json → Option TokenValue
  | .integer negative magnitude => ofInt? (Integer.signed negative magnitude)
  | _ => none

end TokenValue

structure InstructionToken where
  kind : TokenKind
  text : String
  /-- The value of a number or an address. -/
  value : Option TokenValue
  deriving Repr, DecidableEq

namespace InstructionToken

/-- The token as a document; a value that is absent is left out. -/
def toJson (token : InstructionToken) : Json :=
  .ofFields
    ([("kind", .text token.kind.label), ("text", .text token.text)] ++
      (token.value.map fun value => ("value", Json.ofInt value.val)).toList)

def ofJson? (value : Json) : Option InstructionToken := do
  let fields ← value.asRecord? ["kind", "text", "value"]
  let kind ← fields.required? "kind" (Json.asNamed? TokenKind.ofLabel?)
  let text ← fields.required? "text" Json.asText?
  let value ← fields.withDefault? "value" none (Json.asOption? TokenValue.ofJson?)
  pure ⟨kind, text, value⟩

end InstructionToken

end SymbolCorpus
