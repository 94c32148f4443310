import SymbolCorpus.Identifier.Suffix
import SymbolCorpus.Identifier.Words

/-! # Segmenting identifiers

A segmenter cuts an identifier into words, the words into pieces, and merges a final suffix back. The
letters of the identifier come out in order and in lower case; nothing else does.
-/

namespace SymbolCorpus.Identifier

/-- A subword model and a dictionary. -/
structure Segmenter where
  /-- How words are cut into pieces. -/
  model : SubwordModel
  /-- The words that the suffix merge knows. -/
  dictionary : Dictionary

namespace Segmenter

/-- Whole words and no dictionary. -/
def plain : Segmenter := ⟨.whole, .empty⟩

/-- The lower-case pieces of an identifier; none when it has no letter. -/
def segment (segmenter : Segmenter) (name : List Char) : List (List Char) :=
  mergeSuffix segmenter.dictionary (segmenter.model.pieces (splitWords name))

/-- The pieces with spaces between them, the form in which a name is shown. -/
def display (segmenter : Segmenter) (name : List Char) : List Char :=
  Text.joinWith [' '] (segmenter.segment name)

end Segmenter

end SymbolCorpus.Identifier
