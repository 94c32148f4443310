import SymbolCorpus.Text.Alphabetic
import SymbolCorpus.Text.LetterCase
import SymbolCorpus.Text.Numeral
import SymbolCorpus.Text.Blank
import SymbolCorpus.Text.Visible
import SymbolCorpus.Text.CaseContext

/-! # Classes of characters

The predicates that the rest of the library is written with. All of them look a code point up in the
table of a Unicode property, so they agree with one another on every script: an upper-case letter is
alphabetic, an alphabetic character or decimal digit is a word character, and so on.
-/

namespace SymbolCorpus.Text

/-- Letters, and the symbols and vowel signs that count as letters. -/
def isAlphabetic (c : Char) : Bool := Span.member alphabeticSpans c.toNat

/-- Letters and symbols in upper case. -/
def isUppercase (c : Char) : Bool := Span.member uppercaseSpans c.toNat

/-- Letters and symbols in lower case. -/
def isLowercase (c : Char) : Bool := Span.member lowercaseSpans c.toNat

/-- Decimal digits of any script. -/
def isDecimal (c : Char) : Bool := Span.member decimalSpans c.toNat

/-- Numbers of any kind: digits, letter numbers, fractions and the like. -/
def isNumeric (c : Char) : Bool := Span.member numericSpans c.toNat

/-- White space of any kind. -/
def isBlank (c : Char) : Bool := Span.member blankSpans c.toNat

/-- Alphabetic characters and numbers of any kind. -/
def isAlphanumeric (c : Char) : Bool := isAlphabetic c || isNumeric c

/-- The two invisible characters that join or separate neighbouring letters. -/
def isJoiner (c : Char) : Bool := c == '\u200c' || c == '\u200d'

/-- The characters that words are made of: letters, decimal digits, connectors such as the low line,
combining marks and joiners. -/
def isWord (c : Char) : Bool :=
  isAlphabetic c || isDecimal c || Span.member connectorSpans c.toNat ||
    Span.member markSpans c.toNat || isJoiner c

/-- A word character that can begin a name: anything but a decimal digit. -/
def isNameStart (c : Char) : Bool := isWord c && !isDecimal c

/-- A character that a quoted text shows as it is. -/
def isVisible (c : Char) : Bool :=
  !Span.member invisibleSpans c.toNat && !Span.member extendingSpans c.toNat

/-- The digits 0 to 9 and the letters a to f in either case. -/
def isHexDigit (c : Char) : Bool :=
  c.isDigit || ('a' ≤ c && c ≤ 'f') || ('A' ≤ c && c ≤ 'F')

/-- The digits 0 to 9 and the letters A to F in upper case. -/
def isUpperHexDigit (c : Char) : Bool := c.isDigit || ('A' ≤ c && c ≤ 'F')

end SymbolCorpus.Text
