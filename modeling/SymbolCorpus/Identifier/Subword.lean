import Std.Data.HashMap
import SymbolCorpus.Text.Key

/-! # Subword models

A unigram model scores pieces of words. A word is cut into the pieces with the greatest total score
by a search over all its beginnings: the best cut of a beginning extends the best cut of a shorter
one by one piece. A character that no piece covers may stand alone at a fixed unfavourable score.

The scores are a parameter: the search needs their sum and their order and nothing else.
-/

namespace SymbolCorpus.Identifier

/-- The mark before the first piece of every word. -/
def wordStart : Char := '▁'

/-- Pieces that steer a model and never stand for text. -/
def controlPieces : List (List Char) :=
  ["<unk>".toList, "<s>".toList, "</s>".toList, "<pad>".toList]

def isTextPiece (piece : List Char) : Bool := !piece.isEmpty && !controlPieces.contains piece

/-- Pieces with their scores, and what follows from all of them. -/
structure Unigram (Score : Type) where
  /-- The score of every piece. -/
  scores : Std.HashMap (List Char) Score
  /-- The number of characters of the longest piece, at least one. -/
  longest : Nat
  /-- The score of a character on its own that is no piece. -/
  unknown : Score

namespace Unigram

variable {Score : Type}

/-- The lesser of two scores; one that is not comparable changes nothing. -/
def least [LT Score] [DecidableLT Score] (bound score : Score) : Score :=
  if score < bound then score else bound

/-- The model of a list of pieces: control pieces are left out, and the last score of a repeated
piece counts. An unknown character scores the penalty below the least of zero and all scores. -/
def ofPieces [Add Score] [LT Score] [DecidableLT Score] [OfNat Score 0] (penalty : Score)
    (pieces : List (List Char × Score)) : Unigram Score :=
  let kept := pieces.filter (isTextPiece ·.1)
  let scores := Std.HashMap.ofList kept
  { scores
    longest := max 1 ((kept.map (·.1.length)).foldl max 0)
    unknown := (scores.toList.map (·.2)).foldl least 0 + penalty }

/-- The number of different pieces. -/
def size (model : Unigram Score) : Nat := model.scores.size

/-- The score of a piece, when the model has it. -/
def score? (model : Unigram Score) (piece : List Char) : Option Score := model.scores[piece]?

def charScore (model : Unigram Score) (c : Char) : Score := (model.score? [c]).getD model.unknown

/-- A cut of the beginning of a word: its total score and its pieces, last piece first. -/
structure Cut (Score : Type) where
  /-- The sum of the scores. -/
  score : Score
  /-- The pieces, the last one first. -/
  reversed : List (List Char)

def Cut.extend [Add Score] (cut : Cut Score) (piece : List Char) (score : Score) : Cut Score :=
  ⟨cut.score + score, piece :: cut.reversed⟩

/-- The cuts that end in a known piece, from the shortest last piece to the longest. `earlier` holds
the best cut before each of the characters `back`, nearest first; `piece` is what follows them, and
`room` is how many characters a piece may still gain. -/
def extensions [Add Score] (model : Unigram Score) :
    List (Cut Score) → List Char → List Char → Nat → List (Cut Score)
  | cut :: earlier, c :: back, piece, room + 1 =>
      let longer := extensions model earlier back (c :: piece) room
      match model.score? (c :: piece) with
      | some score => cut.extend (c :: piece) score :: longer
      | none => longer
  | _, _, _, _ => []

/-- The first cut of greatest score, looked for from the longest last piece to the shortest. -/
def best? [LT Score] [DecidableLT Score] : List (Cut Score) → Option (Cut Score)
  | [] => none
  | cut :: longer =>
      match best? longer with
      | none => some cut
      | some found => if found.score < cut.score then some cut else some found

/-- The search after some characters of a word. -/
structure Search (Score : Type) where
  /-- The characters read, last one first. -/
  back : List Char
  /-- The best cut of all that was read. -/
  current : Cut Score
  /-- The best cut before each character read, nearest first. -/
  earlier : List (Cut Score)

/-- One more character: it stands alone after the best cut so far, or ends a longer known piece. The
single character wins only when its score is greater. -/
def Search.read [Add Score] [LT Score] [DecidableLT Score] (model : Unigram Score)
    (search : Search Score) (c : Char) : Search Score :=
  let alone := search.current.extend [c] (model.charScore c)
  let longer := extensions model search.earlier search.back [c] (model.longest - 1)
  let winner :=
    match best? longer with
    | none => alone
    | some found => if found.score < alone.score then alone else found
  { back := c :: search.back, current := winner, earlier := search.current :: search.earlier }

def bestCut [Add Score] [LT Score] [DecidableLT Score] [OfNat Score 0] (model : Unigram Score)
    (text : List Char) : Cut Score :=
  (text.foldl (Search.read model) ⟨[], ⟨0, []⟩, []⟩).current

/-- The pieces of a word, the mark of its start before it. The empty word has none. -/
def encode [Add Score] [LT Score] [DecidableLT Score] [OfNat Score 0] (model : Unigram Score)
    (word : List Char) : List (List Char) :=
  if word.isEmpty then [] else (model.bestCut (wordStart :: word)).reversed.reverse

end Unigram

/-- How a word is cut into pieces. -/
inductive SubwordModel where
  /-- Every word is one piece. -/
  | whole
  /-- The pieces of greatest total score. -/
  | unigram (model : Unigram Float)

namespace SubwordModel

/-- The pieces of one word, the mark of its start on the first. -/
def encode : SubwordModel → List Char → List (List Char)
  | .whole, word => if word.isEmpty then [] else [wordStart :: word]
  | .unigram model, word => model.encode word

/-- The pieces of all words in order, without marks, and without those that were marks only. -/
def pieces (model : SubwordModel) (words : List (List Char)) : List (List Char) :=
  (((words.flatMap model.encode).map (·.filter (· ≠ wordStart))).filter (!·.isEmpty))

end SubwordModel

end SymbolCorpus.Identifier
