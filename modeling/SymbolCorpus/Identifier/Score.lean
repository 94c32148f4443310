import SymbolCorpus.Text.Cut

/-! # Written scores

A score is written as a decimal number with an optional sign, fraction and exponent, or as one of the
words for infinity and for an undefined value, in any case. At least one digit stands before or after
the point, and an exponent has a digit. The value is the nearest double.
-/

namespace SymbolCorpus.Identifier

open Text

/-- A sign, when one is written, and what follows it; true means negative. -/
def readSign : List Char → Bool × List Char
  | '-' :: rest => (true, rest)
  | '+' :: rest => (false, rest)
  | text => (false, text)

def digitsValue (digits : List Char) : Nat :=
  digits.foldl (fun value c => 10 * value + (c.toNat - '0'.toNat)) 0

/-- Digits and nothing else. -/
def wholeDigits? (text : List Char) : Option (List Char) :=
  if text.all Char.isDigit && !text.isEmpty then some text else none

/-- The written exponent of ten, zero when there is none. -/
def readExponent : List Char → Option Int
  | [] => some 0
  | c :: rest =>
      if c = 'e' || c = 'E' then
        let (negative, digits) := readSign rest
        (wholeDigits? digits).map fun digits =>
          if negative then -(digitsValue digits : Int) else digitsValue digits
      else none

/-- A double from digits and an exponent of ten. An exponent that leaves the range of doubles by far
is answered without computing the power. -/
def decimalValue (digits : List Char) (exponent : Int) : Float :=
  let mantissa := digitsValue digits
  let magnitude := (digits.length : Int) + exponent
  if mantissa = 0 || magnitude < -400 then 0.0
  else if 400 + (digits.length : Int) < magnitude then 1.0 / 0.0
  else if exponent < 0 then Float.ofScientific mantissa true exponent.natAbs
  else Float.ofScientific mantissa false exponent.toNat

/-- An unsigned decimal number. -/
def readDecimal? (text : List Char) : Option Float :=
  let whole := text.takeWhile Char.isDigit
  let afterWhole := text.dropWhile Char.isDigit
  let (fraction, afterFraction) :=
    match afterWhole with
    | '.' :: rest => (rest.takeWhile Char.isDigit, rest.dropWhile Char.isDigit)
    | rest => ([], rest)
  if whole.isEmpty && fraction.isEmpty then none
  else
    (readExponent afterFraction).map fun exponent =>
      decimalValue (whole ++ fraction) (exponent - fraction.length)

/-- A written score. -/
def readScore? (text : List Char) : Option Float :=
  let (negative, rest) := readSign text
  let magnitude :=
    match String.ofList (rest.map Char.toLower) with
    | "inf" | "infinity" => some (1.0 / 0.0)
    | "nan" => some (0.0 / 0.0)
    | _ => readDecimal? rest
  magnitude.map fun value => if negative then -value else value

end SymbolCorpus.Identifier
