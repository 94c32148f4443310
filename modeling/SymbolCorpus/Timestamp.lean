/-! # Timestamps

A moment in universal time and its text, which has a date, a time of day and an offset.
-/

namespace SymbolCorpus

/-- A moment. -/
structure Timestamp where
  /-- The seconds since the first of January 1970. -/
  seconds : Int
  /-- The nanoseconds since the last second. -/
  nanoseconds : Nat
  deriving Repr, DecidableEq

namespace Timestamp

/-- A day of the Gregorian calendar. -/
structure Day where
  year : Int
  /-- The month, from one. -/
  month : Nat
  /-- The day of the month, from one. -/
  day : Nat
  deriving Repr, DecidableEq

/-- The day so many days after the first of January 1970. Years are counted from March on, so that a
leap day is the last day of its year, in eras of four hundred years. -/
def Day.ofNumber (number : Int) : Day :=
  let shifted := number + 719468
  let era := shifted.fdiv 146097
  let dayOfEra := (shifted.fmod 146097).toNat
  let yearOfEra := (dayOfEra - dayOfEra / 1460 + dayOfEra / 36524 - dayOfEra / 146096) / 365
  let dayOfYear := dayOfEra - (365 * yearOfEra + yearOfEra / 4 - yearOfEra / 100)
  let monthFromMarch := (5 * dayOfYear + 2) / 153
  let month := if monthFromMarch < 10 then monthFromMarch + 3 else monthFromMarch - 9
  { year := yearOfEra + era * 400 + (if month ≤ 2 then 1 else 0)
    month
    day := dayOfYear - (153 * monthFromMarch + 2) / 5 + 1 }

/-- A number with zeros before it up to a width. -/
def padded (width number : Nat) : String :=
  let digits := Nat.toDigits 10 number
  String.ofList (List.replicate (width - digits.length) '0' ++ digits)

/-- The part of a second in three, six or nine digits; nothing for a full second. -/
def fraction (nanoseconds : Nat) : String :=
  if nanoseconds = 0 then ""
  else if nanoseconds % 1000000 = 0 then "." ++ padded 3 (nanoseconds / 1000000)
  else if nanoseconds % 1000 = 0 then "." ++ padded 6 (nanoseconds / 1000)
  else "." ++ padded 9 nanoseconds

/-- The text of a moment. -/
def toText (time : Timestamp) : String :=
  let day := Day.ofNumber (time.seconds.fdiv 86400)
  let second := (time.seconds.fmod 86400).toNat
  padded 4 day.year.toNat ++ "-" ++ padded 2 day.month ++ "-" ++ padded 2 day.day ++ "T" ++
    padded 2 (second / 3600) ++ ":" ++ padded 2 (second / 60 % 60) ++ ":" ++
    padded 2 (second % 60) ++ fraction time.nanoseconds ++ "+00:00"

end Timestamp

end SymbolCorpus
