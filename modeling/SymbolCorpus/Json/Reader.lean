import SymbolCorpus.Json.Value
import SymbolCorpus.Text.Octets

/-! # Reading JSON

The reader accepts exactly the JSON texts. It is lenient in what a text may stand for, not in its
form: a surrogate on its own, or an octet that belongs to no character, makes a string unreadable but
leaves the document well formed, so that it may stand in a field that nobody reads.
-/

namespace SymbolCorpus.Json

/-- Stands in a text for an octet that belongs to no character. A JSON text has no such control of
its own. -/
def substitute : Char := '\x1a'

/-- A control character, which no string may hold as it is. -/
def isControl (c : Char) : Bool := c.toNat < 0x20

/-- The white space of JSON. -/
def isBlank (c : Char) : Bool := c == ' ' || c == '\t' || c == '\n' || c == '\r'

/-- The text without the white space at its start. -/
def skipBlanks (text : List Char) : List Char := text.dropWhile isBlank

/-! ## Strings -/

inductive StringPart where
  | char (c : Char)
  /-- A code unit of sixteen bits, from an escape. -/
  | codeUnit (value : Nat)
  /-- An octet that belongs to no character. -/
  | stray
  deriving Repr, DecidableEq

def simpleEscape? : Char → Option Char
  | '"' => some '"'
  | '\\' => some '\\'
  | '/' => some '/'
  | 'b' => some '\x08'
  | 'f' => some '\x0c'
  | 'n' => some '\n'
  | 'r' => some '\r'
  | 't' => some '\t'
  | _ => none

/-- The value of a hexadecimal digit. -/
def hexValue? (c : Char) : Option Nat :=
  if '0' ≤ c && c ≤ '9' then some (c.toNat - '0'.toNat)
  else if 'a' ≤ c && c ≤ 'f' then some (c.toNat - 'a'.toNat + 10)
  else if 'A' ≤ c && c ≤ 'F' then some (c.toNat - 'A'.toNat + 10)
  else none

/-- The value of four hexadecimal digits. -/
def hexValues? (a b c d : Char) : Option Nat := do
  let a ← hexValue? a
  let b ← hexValue? b
  let c ← hexValue? c
  let d ← hexValue? d
  pure (((a * 16 + b) * 16 + c) * 16 + d)

/-- The parts of a string up to its closing quote, and what follows the quote. -/
def stringParts : List Char → Option (List StringPart × List Char)
  | [] => none
  | '"' :: rest => some ([], rest)
  | '\\' :: 'u' :: a :: b :: c :: d :: rest => do
      let value ← hexValues? a b c d
      let (parts, after) ← stringParts rest
      pure (.codeUnit value :: parts, after)
  | '\\' :: e :: rest => do
      let c ← simpleEscape? e
      let (parts, after) ← stringParts rest
      pure (.char c :: parts, after)
  | c :: rest =>
      if c = '\\' then none
      else if c = substitute then do
        let (parts, after) ← stringParts rest
        pure (.stray :: parts, after)
      else if isControl c then none
      else do
        let (parts, after) ← stringParts rest
        pure (.char c :: parts, after)

/-- The first half of a pair of code units. -/
def isLeading (value : Nat) : Bool := 0xd800 ≤ value && value < 0xdc00

/-- The second half of a pair of code units. -/
def isTrailing (value : Nat) : Bool := 0xdc00 ≤ value && value < 0xe000

/-- The text of a string's parts; none when a code unit stands alone that needs another. -/
def textOfParts : List StringPart → Option (List Char)
  | [] => some []
  | .char c :: rest => (textOfParts rest).map (c :: ·)
  | .stray :: _ => none
  | .codeUnit leading :: .codeUnit trailing :: rest =>
      if isLeading leading && isTrailing trailing then
        (textOfParts rest).map
          (Char.ofNat (0x10000 + (leading - 0xd800) * 0x400 + (trailing - 0xdc00)) :: ·)
      else if isLeading leading || isTrailing leading then none
      else (textOfParts (.codeUnit trailing :: rest)).map (Char.ofNat leading :: ·)
  | .codeUnit value :: rest =>
      if isLeading value || isTrailing value then none
      else (textOfParts rest).map (Char.ofNat value :: ·)

/-- The string after an opening quote, and what follows it. -/
def readString (text : List Char) : Option (Option (List Char) × List Char) :=
  (stringParts text).map fun (parts, rest) => (textOfParts parts, rest)

/-! ## Numbers -/

def digitsValue (digits : List Char) : Nat :=
  digits.foldl (fun value c => 10 * value + (c.toNat - '0'.toNat)) 0

/-- What follows the digits of a fraction, of which there must be one. -/
def afterDigits? (text : List Char) : Option (List Char) :=
  if (text.takeWhile Char.isDigit).isEmpty then none else some (text.dropWhile Char.isDigit)

/-- What follows an optional sign. -/
def afterSign : List Char → List Char
  | '+' :: rest => rest
  | '-' :: rest => rest
  | text => text

/-- What follows an optional fraction. -/
def afterFraction? : List Char → Option (List Char)
  | '.' :: rest => afterDigits? rest
  | text => some text

/-- What follows an optional exponent. -/
def afterExponent? : List Char → Option (List Char)
  | c :: rest => if c = 'e' || c = 'E' then afterDigits? (afterSign rest) else some (c :: rest)
  | [] => some []

/-- The digits of the whole part, which has no zero at its start unless it is zero, and what follows
them. -/
def wholePart? : List Char → Option (List Char × List Char)
  | '0' :: rest => some (['0'], rest)
  | text =>
      let digits := text.takeWhile Char.isDigit
      if digits.isEmpty then none else some (digits, text.dropWhile Char.isDigit)

/-- A number without its sign, and what follows it. -/
def readMagnitude (negative : Bool) (text : List Char) : Option (Json × List Char) := do
  let (digits, rest) ← wholePart? text
  let afterFraction ← afterFraction? rest
  let after ← afterExponent? afterFraction
  if after.length = rest.length then pure (.integer negative (digitsValue digits), after)
  else pure (.fractional, after)

/-- A number, and what follows it. -/
def readNumber : List Char → Option (Json × List Char)
  | '-' :: rest => readMagnitude true rest
  | text => readMagnitude false text

/-! ## Documents -/

def readWord (word : List Char) (value : Json) (text : List Char) : Option (Json × List Char) :=
  (word.isPrefixOf? text).map (value, ·)

mutual

/-- A value and what follows it. The fuel bounds the number of steps. -/
def readValue : Nat → List Char → Option (Json × List Char)
  | 0, _ => none
  | fuel + 1, text =>
      match skipBlanks text with
      | '[' :: rest =>
          match skipBlanks rest with
          | ']' :: after => some (.array [], after)
          | items => (readItems fuel items).map fun (items, after) => (.array items, after)
      | '{' :: rest =>
          match skipBlanks rest with
          | '}' :: after => some (.object [], after)
          | fields => (readFields fuel fields).map fun (fields, after) => (.object fields, after)
      | '"' :: rest => (readString rest).map fun (text, after) => (.string text, after)
      | 't' :: rest => readWord "rue".toList (.bool true) rest
      | 'f' :: rest => readWord "alse".toList (.bool false) rest
      | 'n' :: rest => readWord "ull".toList .null rest
      | number => readNumber number

/-- The items of an array that has one, up to its closing bracket. -/
def readItems : Nat → List Char → Option (List Json × List Char)
  | 0, _ => none
  | fuel + 1, text => do
      let (item, rest) ← readValue fuel text
      match skipBlanks rest with
      | ']' :: after => pure ([item], after)
      | ',' :: more =>
          let (items, after) ← readItems fuel more
          pure (item :: items, after)
      | _ => none

/-- The fields of an object that has one, up to its closing brace. -/
def readFields : Nat → List Char → Option (List (Option (List Char) × Json) × List Char)
  | 0, _ => none
  | fuel + 1, text => do
      match skipBlanks text with
      | '"' :: quoted =>
          let (key, afterKey) ← readString quoted
          match skipBlanks afterKey with
          | ':' :: rest =>
              let (value, afterValue) ← readValue fuel rest
              match skipBlanks afterValue with
              | '}' :: after => pure ([(key, value)], after)
              | ',' :: more =>
                  let (fields, after) ← readFields fuel more
                  pure ((key, value) :: fields, after)
              | _ => none
          | _ => none
      | _ => none

end

/-- The document of a text that may hold substitutes. Every step of the reader but the last takes a
character, so twice the length is fuel enough. -/
def readDocument (text : List Char) : Option Json := do
  let (value, rest) ← readValue (2 * text.length + 2) text
  if (skipBlanks rest).isEmpty then some value else none

def read (text : List Char) : Option Json :=
  if text.contains substitute then none else readDocument text

def ofOctets (octets : ByteArray) : Option Json :=
  let chars := Text.charsOfOctets octets
  if chars.contains (some substitute) then none
  else readDocument (chars.map fun c => c.getD substitute)

end SymbolCorpus.Json
