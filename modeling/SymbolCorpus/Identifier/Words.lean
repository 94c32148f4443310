import SymbolCorpus.Text.Lowering

/-! # Words of an identifier

An identifier is cut into lower-case words in three steps. Characters that are not alphabetic become
separators. Every maximal run of two or more capitals is a chunk of its own, an acronym, and so is the
text between two acronyms. A chunk with capitals and no lower-case letter is one word; any other
chunk is cut at separators and before capitals.
-/

namespace SymbolCorpus.Identifier

open Text

/-- What every character that is not alphabetic is replaced by. -/
def separator : Char := '_'

/-- The identifier with separators in place of all that is not alphabetic. -/
def markSeparators (name : List Char) : List Char :=
  name.map fun c => if isAlphabetic c then c else separator

/-- Two capitals stand at the start of the text. -/
def startsAcronym : List Char → Bool
  | a :: b :: _ => isUppercase a && isUppercase b
  | _ => false

/-- The text up to the first acronym, and the text from there on. -/
def beforeAcronym : List Char → List Char × List Char
  | [] => ([], [])
  | c :: rest =>
      if startsAcronym (c :: rest) then ([], c :: rest)
      else (c :: (beforeAcronym rest).1, (beforeAcronym rest).2)

/-- Nothing is gained by skipping to an acronym. -/
theorem length_beforeAcronym_snd_le (text : List Char) :
    (beforeAcronym text).2.length ≤ text.length := by
  induction text with
  | nil => simp [beforeAcronym]
  | cons c rest ih =>
      unfold beforeAcronym
      split
      · simp
      · simp only [List.length_cons]
        omega

/-- Every capital is used up together with those that follow it. -/
theorem length_dropWhile_cons_lt {p : Char → Bool} {c : Char} (h : p c = true) (rest : List Char) :
    ((c :: rest).dropWhile p).length < (c :: rest).length := by
  rw [List.dropWhile_cons_of_pos h]
  have := List.Sublist.length_le (List.dropWhile_sublist p (l := rest))
  simp only [List.length_cons]
  omega

/-- The text from an acronym on begins with a capital. -/
theorem isUppercase_of_beforeAcronym {text rest : List Char} {c : Char}
    (h : (beforeAcronym text).2 = c :: rest) : isUppercase c = true := by
  induction text with
  | nil => simp [beforeAcronym] at h
  | cons a tail ih =>
      unfold beforeAcronym at h
      split at h
      · next starts =>
          cases tail with
          | nil => simp [startsAcronym] at starts
          | cons b more =>
              simp only [List.cons.injEq] at h
              simp only [startsAcronym, Bool.and_eq_true] at starts
              exact h.1 ▸ starts.1
      · exact ih h

/-- A chunk is kept unless it is empty. -/
def keepNonempty (chunk : List Char) (chunks : List (List Char)) : List (List Char) :=
  if chunk.isEmpty then chunks else chunk :: chunks

/-- Acronyms and the texts between them, in order. -/
def chunks (text : List Char) : List (List Char) :=
  match _h : beforeAcronym text with
  | (before, []) => keepNonempty before []
  | (before, c :: rest) =>
      keepNonempty before
        ((c :: rest).takeWhile isUppercase :: chunks ((c :: rest).dropWhile isUppercase))
termination_by text.length
decreasing_by
  have upper : isUppercase c = true := isUppercase_of_beforeAcronym (by rw [_h])
  have shorter := length_dropWhile_cons_lt upper rest
  have bound := length_beforeAcronym_snd_le text
  rw [_h] at bound
  exact Nat.lt_of_lt_of_le shorter bound

/-- The chunk has a capital and no lower-case letter. -/
def isAllUpper (chunk : List Char) : Bool := chunk.any isUppercase && !chunk.any isLowercase

/-- The word read so far, unless it is empty, before the words that follow. -/
def finishWord (current : List Char) (words : List (List Char)) : List (List Char) :=
  if current.isEmpty then words else current :: words

/-- The lower-case words of a chunk after the part of a word read so far: a word ends at a separator
and before a capital. -/
def camelWordsFrom (current : List Char) : List Char → List (List Char)
  | [] => finishWord current []
  | c :: rest =>
      if c = separator then finishWord current (camelWordsFrom [] rest)
      else if isUppercase c then finishWord current (camelWordsFrom (lowercase c) rest)
      else camelWordsFrom (current ++ lowercase c) rest

/-- The lower-case words of a chunk in camel case. -/
def camelWords (chunk : List Char) : List (List Char) := camelWordsFrom [] chunk

def chunkWords (chunk : List Char) : List (List Char) :=
  if isAllUpper chunk then [lowercaseEach (chunk.filter (· ≠ separator))] else camelWords chunk

/-- The lower-case words of an identifier, in order. -/
def splitWords (name : List Char) : List (List Char) :=
  (chunks (markSeparators name)).flatMap chunkWords

end SymbolCorpus.Identifier
