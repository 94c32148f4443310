import SymbolCorpus.Text.CharClass

/-! # Texts in octets

A file holds octets. Where a text is asked for they must be UTF-8 throughout; where only a part of a
document is looked at, octets that belong to no character are passed over one by one.
-/

namespace SymbolCorpus.Text

/-- The characters of octets that are UTF-8. -/
def ofOctets? (octets : ByteArray) : Option (List Char) :=
  (String.fromUTF8? octets).map String.toList

def toOctets (text : List Char) : ByteArray := (String.ofList text).toUTF8

/-- The characters of octets from a position on, with `none` for every octet that belongs to no
character. -/
def charsFrom (octets : ByteArray) (position : Nat) : List (Option Char) :=
  if position < octets.size then
    match octets.utf8DecodeChar? position with
    | some c => some c :: charsFrom octets (position + c.utf8Size)
    | none => none :: charsFrom octets (position + 1)
  else []
termination_by octets.size - position
decreasing_by
  · have := Char.utf8Size_pos c
    omega
  · omega

/-- The characters of octets, with `none` for every octet that belongs to no character. -/
def charsOfOctets (octets : ByteArray) : List (Option Char) := charsFrom octets 0

end SymbolCorpus.Text
