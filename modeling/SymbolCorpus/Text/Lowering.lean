import SymbolCorpus.Text.CharClass

/-! # Lower case

The full mapping of a character to lower case, which can give two characters, and the mapping of a
whole text, in which a capital sigma at the end of a word takes its final form.
-/

namespace SymbolCorpus.Text

/-- The simple lower-case mapping of a code point: the shift of its span, or the code point itself. -/
def lowerCode (code : Nat) : Nat :=
  match lowerShifts.find? (·.span.contains code) with
  | some entry => ((code : Int) + entry.shift).toNat
  | none => code

/-- The full lower-case mapping of one character on its own. The dotted capital I is the only
character that becomes two. -/
def lowercase (c : Char) : List Char :=
  if c.toNat < 0x80 then [c.toLower]
  else if c = 'İ' then ['i', '\u0307']
  else [Char.ofNat (lowerCode c.toNat)]

/-- The lower-case mapping, character by character and without regard to context. -/
def lowercaseEach (text : List Char) : List Char := text.flatMap lowercase

/-- A character whose case is told apart: upper, lower or title case. -/
def isCased (c : Char) : Bool := Span.member casedSpans c.toNat

/-- A character that is looked through when the end of a word is sought. -/
def isCaseIgnorable (c : Char) : Bool := Span.member caseIgnorableSpans c.toNat

/-- The first character that is not looked through has a case. -/
def meetsCased (text : List Char) : Bool :=
  match text.dropWhile isCaseIgnorable with
  | c :: _ => isCased c
  | [] => false

/-- The lower-case mapping of the rest of a text, given what precedes it in reverse. -/
def lowercaseAfter (before : List Char) : List Char → List Char
  | [] => []
  | c :: rest =>
      let mapped :=
        if c = 'Σ' then if meetsCased before && !meetsCased rest then ['ς'] else ['σ']
        else lowercase c
      mapped ++ lowercaseAfter (c :: before) rest

/-- The lower-case mapping of a whole text: a capital sigma that follows a letter and precedes none
becomes the final sigma. -/
def lowercaseText (text : List Char) : List Char := lowercaseAfter [] text

end SymbolCorpus.Text
