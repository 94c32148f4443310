import SymbolCorpus.Text.Octets

/-! # Raw texts

Names and paths of files are octets. Most of them are texts in UTF-8, but nothing sees to that, and
octets that are no text name a file as well as others do.
-/

namespace SymbolCorpus

/-- Octets that are meant to be a text and need not be one. -/
structure RawText where
  octets : List UInt8
  deriving Repr, DecidableEq

namespace RawText

/-- A text in UTF-8. -/
def ofText (text : String) : RawText := ⟨text.toList.flatMap String.utf8EncodeChar⟩

instance : Coe String RawText := ⟨ofText⟩

/-- The first octets that differ decide. -/
instance : LT RawText := ⟨fun raw other => raw.octets < other.octets⟩

instance : DecidableLT RawText := fun raw other =>
  inferInstanceAs (Decidable (raw.octets < other.octets))

/-- The characters of octets that are UTF-8. -/
def text? (raw : RawText) : Option (List Char) := Text.ofOctets? raw.octets.toByteArray

/-! ## Showing raw texts -/

/-- An octet that goes on with a character. -/
def isContinuation (octet : UInt8) : Bool := 0x80 ≤ octet && octet ≤ 0xbf

/-- The second octet may follow the first one in a character of three or four octets. -/
def isStart (first second : UInt8) : Bool :=
  if first = 0xe0 then 0xa0 ≤ second && second ≤ 0xbf
  else if first = 0xed then 0x80 ≤ second && second ≤ 0x9f
  else if first = 0xf0 then 0x90 ≤ second && second ≤ 0xbf
  else if first = 0xf4 then 0x80 ≤ second && second ≤ 0x8f
  else 0xe1 ≤ first && first ≤ 0xf3 && isContinuation second

/-- How many octets at the start of some that begin with no character are shown as one sign: as many
as begin a character, or a single one. -/
def brokenLength : List UInt8 → Nat
  | first :: second :: rest =>
      if isStart first second then if 0xf0 ≤ first && rest.head?.any isContinuation then 3 else 2
      else 1
  | _ => 1

theorem brokenLength_pos (octets : List UInt8) : 0 < brokenLength octets := by
  unfold brokenLength
  repeat' split
  all_goals decide

/-- The characters of octets from a position on, with a sign in place of what is none. -/
def shownFrom (octets : ByteArray) (position : Nat) : List Char :=
  if position < octets.size then
    match octets.utf8DecodeChar? position with
    | some c => c :: shownFrom octets (position + c.utf8Size)
    | none =>
        '\ufffd' :: shownFrom octets (position + brokenLength (octets.data.toList.drop position))
  else []
termination_by octets.size - position
decreasing_by
  · have := Char.utf8Size_pos c
    omega
  · have := brokenLength_pos (octets.data.toList.drop position)
    omega

/-- The text as it is shown in messages. -/
def shown (raw : RawText) : String := String.ofList (shownFrom raw.octets.toByteArray 0)

end RawText

end SymbolCorpus
