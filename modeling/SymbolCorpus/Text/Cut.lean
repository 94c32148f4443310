import SymbolCorpus.Text.CharClass

/-! # Cutting texts

Trimming, lines, and cutting at separators, on texts given as lists of characters. Each function
keeps the order of what it keeps.
-/

namespace SymbolCorpus.Text

/-- The text without the white space at its start. -/
def trimStart (text : List Char) : List Char := text.dropWhile isBlank

/-- The text without the white space at its end. -/
def trimEnd (text : List Char) : List Char := (text.reverse.dropWhile isBlank).reverse

/-- The text without the white space around it. -/
def trim (text : List Char) : List Char := trimEnd (trimStart text)

/-- What stands before and after the first occurrence of a separator, when there is one. -/
def cutAt (separator : List Char) : List Char → Option (List Char × List Char)
  | [] => if separator.isEmpty then some ([], []) else none
  | c :: rest =>
      match separator.isPrefixOf? (c :: rest) with
      | some after => some ([], after)
      | none => (cutAt separator rest).map fun (before, after) => (c :: before, after)

/-- What stands before and after the last occurrence of a separator, when there is one. -/
def cutAtLast (separator : List Char) (text : List Char) : Option (List Char × List Char) :=
  (cutAt separator.reverse text.reverse).map fun (after, before) => (before.reverse, after.reverse)

/-- The parts between separators, be it of characters or of octets; one more than there are
separators. -/
def splitOn {α : Type} [DecidableEq α] (separator : α) : List α → List (List α)
  | [] => [[]]
  | c :: rest =>
      if c = separator then [] :: splitOn separator rest
      else
        match splitOn separator rest with
        | [] => [[c]]
        | part :: parts => (c :: part) :: parts

/-- A line without the carriage return that may end it. -/
def dropReturn (line : List Char) : List Char :=
  match line.reverse with
  | '\r' :: before => before.reverse
  | _ => line

/-- Lines from parts between newlines: the last part is a line only if it is not empty, and loses no
carriage return since no newline ends it. -/
def linesOfParts : List (List Char) → List (List Char)
  | [] => []
  | [part] => if part.isEmpty then [] else [part]
  | part :: next :: parts => dropReturn part :: linesOfParts (next :: parts)

/-- The lines of a text. A line ends at a newline, with or without a carriage return before it; the
last line need not be ended. -/
def lines (text : List Char) : List (List Char) := linesOfParts (splitOn '\n' text)

/-- Texts put one after another with a separator between them. -/
def joinWith (separator : List Char) (texts : List (List Char)) : List Char :=
  separator.intercalate texts

/-- The number of octets of a text in UTF-8. -/
def utf8Length : List Char → Nat
  | [] => 0
  | c :: rest => c.utf8Size + utf8Length rest

end SymbolCorpus.Text
