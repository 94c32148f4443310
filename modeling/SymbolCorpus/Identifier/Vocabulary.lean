import Std.Data.HashSet
import SymbolCorpus.Identifier.Score
import SymbolCorpus.Identifier.Subword
import SymbolCorpus.Text.Key

/-! # Vocabulary and word lists

The two texts that a segmenter is built from. A subword vocabulary has one piece and its score a line,
a tab between them; a word list has one word a line. Blank lines mean nothing in either.
-/

namespace SymbolCorpus.Identifier

open Text

/-- A line of a subword vocabulary that is no piece with a score. -/
structure MalformedLine where
  /-- The number of the line, from one. -/
  number : Nat
  content : List Char
  deriving Repr, DecidableEq

def readPiece? (line : List Char) : Option (List Char × Float) := do
  let (piece, score) ← cutAt ['\t'] line
  let score ← readScore? (trim score)
  pure (piece, score)

/-- The pieces of numbered lines; the first malformed one is the error. -/
def readPieces : List (Nat × List Char) → Except MalformedLine (List (List Char × Float))
  | [] => .ok []
  | (number, line) :: rest =>
      if (trim line).isEmpty then readPieces rest
      else
        match readPiece? line with
        | none => .error ⟨number, line⟩
        | some piece => (readPieces rest).map (piece :: ·)

/-- What a character that no piece covers loses against the least score. -/
def unknownPenalty : Float := -10.0

/-- The model of a subword vocabulary. -/
def Unigram.ofText (text : List Char) : Except MalformedLine (Unigram Float) :=
  let numbered := (lines text).zipIdx.map fun (line, index) => (index + 1, line)
  (readPieces numbered).map (Unigram.ofPieces unknownPenalty)

/-- The words that the suffix merge knows. -/
structure Dictionary where
  words : Std.HashSet (List Char)

namespace Dictionary

/-- No words at all. -/
def empty : Dictionary := ⟨∅⟩

def ofList (words : List (List Char)) : Dictionary := ⟨Std.HashSet.ofList words⟩

/-- The words of a word list. -/
def ofText (text : List Char) : Dictionary :=
  ofList (((lines text).map trim).filter (!·.isEmpty))

/-- Membership. -/
def contains (dictionary : Dictionary) (word : List Char) : Bool := dictionary.words.contains word

def size (dictionary : Dictionary) : Nat := dictionary.words.size

end Dictionary

end SymbolCorpus.Identifier
