import SymbolCorpus.Integer

/-! # YAML values

A scalar keeps its text and whether it was written without quotes, because only then may it mean null,
a truth value or a number.
-/

namespace SymbolCorpus

/-- A YAML value. -/
inductive Yaml where
  /-- A scalar, plain when it was written without quotes. -/
  | scalar (plain : Bool) (text : List Char)
  | sequence (items : List Yaml)
  /-- A mapping, with its entries as they were written. -/
  | mapping (entries : List (Yaml × Yaml))
  deriving Repr

namespace Yaml

/-- What stands where nothing is written. -/
def absent : Yaml := .scalar true []

/-- The plain scalars that mean null. -/
def isNullText (text : List Char) : Bool :=
  ["", "~", "null", "Null", "NULL"].any (·.toList == text)

/-- A truth value. -/
def asBool? : Yaml → Option Bool
  | .scalar true text =>
      if ["true", "True", "TRUE"].any (·.toList == text) then some true
      else if ["false", "False", "FALSE"].any (·.toList == text) then some false
      else none
  | _ => none

def asText? : Yaml → Option String
  | .scalar _ text => some (String.ofList text)
  | _ => none

/-- A plain null, or a value. -/
def asOption? {α : Type} (decode : Yaml → Option α) : Yaml → Option (Option α)
  | .scalar true text =>
      if isNullText text then some none else (decode (.scalar true text)).map some
  | value => (decode value).map some

/-- One of some named values. -/
def asNamed? {α : Type} (ofName? : String → Option α) (value : Yaml) : Option α :=
  (asText? value).bind ofName?

/-- The value of a digit in a base of at most sixteen. -/
def digitValue? (base : Nat) (c : Char) : Option Nat :=
  let value? :=
    if '0' ≤ c && c ≤ '9' then some (c.toNat - '0'.toNat)
    else if 'a' ≤ c && c ≤ 'f' then some (c.toNat - 'a'.toNat + 10)
    else if 'A' ≤ c && c ≤ 'F' then some (c.toNat - 'A'.toNat + 10)
    else none
  value?.filter (· < base)

/-- The value of digits in a base; at least one digit is needed. -/
def digitsValue? (base : Nat) (digits : List Char) : Option Nat :=
  if digits.isEmpty then none
  else digits.foldlM (fun value c => (digitValue? base c).map (base * value + ·)) 0

/-- A magnitude with an optional mark of its base. Without a mark, digits after a zero make it a
text and no number. -/
def readMagnitude? : List Char → Option Nat
  | '0' :: 'x' :: digits => digitsValue? 16 digits
  | '0' :: 'o' :: digits => digitsValue? 8 digits
  | '0' :: 'b' :: digits => digitsValue? 2 digits
  | ['0'] => some 0
  | '0' :: _ => none
  | digits => digitsValue? 10 digits

def readInt? : List Char → Option Int
  | '-' :: rest => (readMagnitude? rest).map (Integer.signed true)
  | '+' :: rest => (readMagnitude? rest).map (Integer.signed false)
  | text => (readMagnitude? text).map (Integer.signed false)

/-- A signed word of sixty-four bits. -/
def asInt64? : Yaml → Option Int64
  | .scalar true text => (readInt? text).bind Integer.toInt64?
  | _ => none

/-- The entries of a record by name; no field of the record may be given twice. Nothing at all is a
record without fields, and every key must be a scalar. -/
def asRecord? (names : List String) : Yaml → Option (List (String × Yaml))
  | .scalar true [] => some []
  | .mapping entries => do
      let named ← entries.mapM fun (key, value) => (asText? key).map (·, value)
      let known := named.filter fun (name, _) => names.contains name
      if names.all fun name => (known.filter (·.1 == name)).length ≤ 1 then some known else none
  | _ => none

/-- A field that has a standard value when it is left out. -/
def withDefault? {α : Type} (fields : List (String × Yaml)) (name : String) (standard : α)
    (decode : Yaml → Option α) : Option α :=
  match fields.find? (·.1 == name) with
  | some (_, value) => decode value
  | none => some standard

end Yaml

end SymbolCorpus
