import SymbolCorpus.Integer
import SymbolCorpus.Json.Value

/-! # Taking values out of a document

Records are objects whose fields may come in any order, or arrays of their fields in the order of
declaration. Fields that a record does not have are passed over; a field given twice is an error.
Everything here answers with `none` for a document of the wrong form.
-/

namespace SymbolCorpus.Json

/-- A truth value. -/
def asBool? : Json → Option Bool
  | .bool value => some value
  | _ => none

def asText? : Json → Option String
  | .string text => text.map String.ofList
  | _ => none

/-- A word of sixty-four bits, which has no sign. -/
def asUInt64? : Json → Option UInt64
  | .integer false magnitude => Integer.toUInt64? magnitude
  | _ => none

/-- A signed word of sixty-four bits. Minus zero is none. -/
def asInt64? : Json → Option Int64
  | .integer negative magnitude =>
      if negative && magnitude == 0 then none
      else Integer.toInt64? (Integer.signed negative magnitude)
  | _ => none

/-- Null, or a value. -/
def asOption? {α : Type} (decode : Json → Option α) : Json → Option (Option α)
  | .null => some none
  | value => (decode value).map some

/-- An array of values. -/
def asList? {α : Type} (decode : Json → Option α) : Json → Option (List α)
  | .array items => items.mapM decode
  | _ => none

/-- The readable keys of an object with their values, repeated ones included. -/
def asObject? : Json → Option (List (String × Json))
  | .object fields =>
      fields.mapM fun (key, value) => key.map fun key => (String.ofList key, value)
  | _ => none

/-- One of some named values: its name, or an object with its name as the only key and null as its
value. -/
def asNamed? {α : Type} (ofName? : String → Option α) : Json → Option α
  | .string text => text.bind fun text => ofName? (String.ofList text)
  | .object [(some key, .null)] => ofName? (String.ofList key)
  | _ => none

/-- The fields of a record that a document gives. -/
structure Fields where
  /-- The fields were given in order and without names. -/
  positional : Bool
  given : List (String × Json)

/-- No name occurs twice. -/
def namesDiffer : List (String × Json) → Bool
  | [] => true
  | (name, _) :: rest => !rest.any (·.1 == name) && namesDiffer rest

/-- The fields of a record with the given field names, in order. -/
def asRecord? (names : List String) : Json → Option Fields
  | .array items => if items.length ≤ names.length then some ⟨true, names.zip items⟩ else none
  | value => do
      let fields ← asObject? value
      let known := fields.filter fun (name, _) => names.contains name
      if namesDiffer known then some ⟨false, known⟩ else none

namespace Fields

/-- The value of a field, when it is given. -/
def value? (fields : Fields) (name : String) : Option Json :=
  (fields.given.find? (·.1 == name)).map (·.2)

/-- A field that must be given. -/
def required? {α : Type} (fields : Fields) (name : String) (decode : Json → Option α) : Option α :=
  (fields.value? name).bind decode

/-- A field that may be null, or left out of an object. -/
def nullable? {α : Type} (fields : Fields) (name : String) (decode : Json → Option α) :
    Option (Option α) :=
  match fields.value? name with
  | some value => asOption? decode value
  | none => if fields.positional then none else some none

/-- A field that has a standard value when it is left out. -/
def withDefault? {α : Type} (fields : Fields) (name : String) (standard : α)
    (decode : Json → Option α) : Option α :=
  match fields.value? name with
  | some value => decode value
  | none => some standard

end Fields

end SymbolCorpus.Json
