import SymbolCorpus.Text.CharClass

/-! # Quoted texts in messages

A message shows a text between double quotes. Quotes, backslashes and the common controls are
escaped by a backslash and a letter; every other character that would not be seen as itself is
given by its code point.
-/

namespace SymbolCorpus.Text

/-- The code point in lower-case hexadecimal digits. -/
def hexDigits (code : Nat) : List Char := Nat.toDigits 16 code

def quoteChar (c : Char) : List Char :=
  match c with
  | '"' => ['\\', '"']
  | '\\' => ['\\', '\\']
  | '\n' => ['\\', 'n']
  | '\r' => ['\\', 'r']
  | '\t' => ['\\', 't']
  | '\x00' => ['\\', '0']
  | c => if isVisible c then [c] else ['\\', 'u', '{'] ++ hexDigits c.toNat ++ ['}']

/-- A text between double quotes. -/
def quote (text : List Char) : List Char := '"' :: text.flatMap quoteChar ++ ['"']

end SymbolCorpus.Text
