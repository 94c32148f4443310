/-! # JSON values

A document keeps the order of its fields, repeated ones included. Strings and numbers that stand for
nothing the library stores are kept as absent: a document may hold them where nobody looks.
-/

namespace SymbolCorpus

/-- A JSON value. -/
inductive Json where
  | null
  | bool (value : Bool)
  /-- An integer as a sign and a magnitude, so that minus zero is told apart. -/
  | integer (negative : Bool) (magnitude : Nat)
  /-- A number with a fraction or an exponent. -/
  | fractional
  /-- A string; none when its escapes or octets stand for no text. -/
  | string (text : Option (List Char))
  | array (items : List Json)
  /-- An object; a key is none when it stands for no text. -/
  | object (fields : List (Option (List Char) × Json))
  deriving Repr

namespace Json

def text (value : String) : Json := .string (some value.toList)

def ofInt (value : Int) : Json := .integer (value < 0) value.natAbs

def ofNat (value : Nat) : Json := .integer false value

def ofOption {α : Type} (encode : α → Json) : Option α → Json
  | some value => encode value
  | none => .null

def ofList {α : Type} (encode : α → Json) (values : List α) : Json := .array (values.map encode)

/-- An object of named fields. -/
def ofFields (fields : List (String × Json)) : Json :=
  .object (fields.map fun (name, value) => (some name.toList, value))

end Json

end SymbolCorpus
