import SymbolCorpus.Json.Value
import SymbolCorpus.Text.Cut

/-! # Writing JSON

A document is written without blanks, or laid out with one item a line and two spaces for each level.
In strings only quotes, backslashes and controls are escaped.
-/

namespace SymbolCorpus.Json

/-- A hexadecimal digit in lower case. -/
def hexDigit (value : Nat) : Char := Nat.digitChar value

/-- One character of a written string. -/
def escapeChar (c : Char) : List Char :=
  match c with
  | '"' => ['\\', '"']
  | '\\' => ['\\', '\\']
  | '\x08' => ['\\', 'b']
  | '\x0c' => ['\\', 'f']
  | '\n' => ['\\', 'n']
  | '\r' => ['\\', 'r']
  | '\t' => ['\\', 't']
  | c =>
      if c.toNat < 0x20 then
        ['\\', 'u', '0', '0', hexDigit (c.toNat / 16), hexDigit (c.toNat % 16)]
      else [c]

/-- A string between quotes. -/
def writeString (text : List Char) : List Char := '"' :: text.flatMap escapeChar ++ ['"']

/-- An integer in decimal digits. -/
def writeInteger (negative : Bool) (magnitude : Nat) : List Char :=
  if negative then '-' :: Nat.toDigits 10 magnitude else Nat.toDigits 10 magnitude

/-- A value that is no array and no object. What stands for nothing is written as null. -/
def writeScalar : Json → List Char
  | .bool true => "true".toList
  | .bool false => "false".toList
  | .integer negative magnitude => writeInteger negative magnitude
  | .string (some text) => writeString text
  | _ => "null".toList

/-- A key; one that stands for no text is written as the empty one. -/
def writeKey (key : Option (List Char)) : List Char := writeString (key.getD [])

mutual

/-- A document without blanks. -/
def write : Json → List Char
  | .array [] => ['[', ']']
  | .array (item :: items) => '[' :: write item ++ writeItems items
  | .object [] => ['{', '}']
  | .object ((key, value) :: fields) =>
      '{' :: writeKey key ++ ':' :: write value ++ writeFields fields
  | value => writeScalar value

/-- The items after the first, and the end of the array. -/
def writeItems : List Json → List Char
  | [] => [']']
  | item :: items => ',' :: write item ++ writeItems items

/-- The fields after the first, and the end of the object. -/
def writeFields : List (Option (List Char) × Json) → List Char
  | [] => ['}']
  | (key, value) :: fields => ',' :: writeKey key ++ ':' :: write value ++ writeFields fields

end

def newLine (level : Nat) : List Char := '\n' :: List.replicate (2 * level) ' '

mutual

/-- A document laid out, at a level. -/
def layOut (level : Nat) : Json → List Char
  | .array [] => ['[', ']']
  | .array (item :: items) =>
      '[' :: newLine (level + 1) ++ layOut (level + 1) item ++ layOutItems level items
  | .object [] => ['{', '}']
  | .object ((key, value) :: fields) =>
      '{' :: newLine (level + 1) ++ writeKey key ++ ':' :: ' ' :: layOut (level + 1) value ++
        layOutFields level fields
  | value => writeScalar value

/-- The items after the first, and the end of the array. -/
def layOutItems (level : Nat) : List Json → List Char
  | [] => newLine level ++ [']']
  | item :: items =>
      ',' :: newLine (level + 1) ++ layOut (level + 1) item ++ layOutItems level items

/-- The fields after the first, and the end of the object. -/
def layOutFields (level : Nat) : List (Option (List Char) × Json) → List Char
  | [] => newLine level ++ ['}']
  | (key, value) :: fields =>
      ',' :: newLine (level + 1) ++ writeKey key ++ ':' :: ' ' :: layOut (level + 1) value ++
        layOutFields level fields

end

/-- A document laid out with two spaces a level, as a string. -/
def pretty (value : Json) : String := String.ofList (value.layOut 0)

end SymbolCorpus.Json
