import SymbolCorpus.Identifier.Vocabulary

/-! # Merging a suffix

The last two pieces of an identifier become one when the last is a suffix: one of a closed list, one
that fits the end of the stem, or one that completes a dictionary word. There is one merge at most.
-/

namespace SymbolCorpus.Identifier

/-- Pieces that always merge onto the piece before them. -/
def suffixes : List (List Char) :=
  ["er".toList, "or".toList, "ed".toList, "ied".toList, "ing".toList, "ling".toList, "est".toList,
    "s".toList, "es".toList, "ies".toList, "ify".toList, "ified".toList, "ly".toList,
    "ible".toList, "able".toList, "ize".toList, "al".toList, "tion".toList, "ition".toList,
    "ous".toList, "ance".toList, "ence".toList, "ful".toList, "ment".toList, "hood".toList]

/-- Endings of a stem with the endings of a last piece that merge onto it. -/
def pairedEndings : List (List Char × List Char) :=
  [("t".toList, "ion".toList), ("e".toList, "d".toList), ("e".toList, "r".toList)]

/-- The last piece belongs to the stem before it. -/
def isSuffixOf (dictionary : Dictionary) (stem last : List Char) : Bool :=
  suffixes.contains last ||
    pairedEndings.any (fun (stemEnd, lastEnd) => stemEnd.isSuffixOf stem && lastEnd.isSuffixOf last) ||
    (dictionary.contains stem && !dictionary.contains last && dictionary.contains (stem ++ last))

/-- The pieces with the last two merged when the last is a suffix. -/
def mergeSuffix (dictionary : Dictionary) : List (List Char) → List (List Char)
  | [] => []
  | [piece] => [piece]
  | [stem, last] => if isSuffixOf dictionary stem last then [stem ++ last] else [stem, last]
  | piece :: next :: last :: rest => piece :: mergeSuffix dictionary (next :: last :: rest)

end SymbolCorpus.Identifier
