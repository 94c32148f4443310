import SymbolCorpus.Text.CharClass

/-! # Masking a function's own name

Before a function is tokenized its own name is replaced, wherever it stands as a whole identifier, by
a name that stands for no name. Here an identifier is a run of alphanumeric characters and low lines.
-/

namespace SymbolCorpus.PseudoCode

open Text

def maskedName : List Char := "sub_0".toList

def isIdentifierChar (c : Char) : Bool := isAlphanumeric c || c = '_'

def continues (c : Option Char) : Bool := c.any isIdentifierChar

/-- The text with the whole occurrences of a name replaced. `before` is the character before the text,
`skip` the number of characters that still belong to the occurrence found last. -/
def maskFrom (name : List Char) (before : Option Char) (skip : Nat) : List Char → List Char
  | [] => []
  | c :: rest =>
      match skip with
      | left + 1 => maskFrom name (some c) left rest
      | 0 =>
          match name.isPrefixOf? (c :: rest) with
          | none => c :: maskFrom name (some c) 0 rest
          | some after =>
              let shown := if continues before || continues after.head? then name else maskedName
              shown ++ maskFrom name (some c) (name.length - 1) rest

/-- The text with the whole occurrences of a name replaced. Occurrences are looked for from left to
right and do not overlap. -/
def mask (name text : List Char) : List Char :=
  if name.isEmpty then text else maskFrom name none 0 text

end SymbolCorpus.PseudoCode
