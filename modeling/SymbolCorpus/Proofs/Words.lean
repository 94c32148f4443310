import SymbolCorpus.Identifier.Words
import SymbolCorpus.Proofs.Characters

/-! # Words keep the letters

Cutting an identifier into words goes through separators, acronyms and camel case.
Each stage is followed by what its parts give when they are put together again:
first the text itself, and once lower case comes in, its letters in lower case.
-/

namespace SymbolCorpus.Identifier

open Text

/-- The lower-case letters of a text in which everything else is a separator. -/
def lowerLetters (text : List Char) : List Char := lowercaseEach (text.filter (· ≠ separator))

theorem lowercaseEach_append (left right : List Char) :
    lowercaseEach (left ++ right) = lowercaseEach left ++ lowercaseEach right :=
  List.flatMap_append

theorem lowerLetters_append (left right : List Char) :
    lowerLetters (left ++ right) = lowerLetters left ++ lowerLetters right := by
  rw [lowerLetters, List.filter_append, lowercaseEach_append]
  rfl

theorem lowerLetters_flatten (chunks : List (List Char)) :
    lowerLetters chunks.flatten = chunks.flatMap lowerLetters := by
  induction chunks with
  | nil => rfl
  | cons chunk chunks ih =>
      rw [List.flatten_cons, lowerLetters_append, ih, List.flatMap_cons]

/-! ## Chunks -/

theorem beforeAcronym_append (text : List Char) :
    (beforeAcronym text).1 ++ (beforeAcronym text).2 = text := by
  induction text with
  | nil => rfl
  | cons c rest ih =>
      unfold beforeAcronym
      split
      · rfl
      · rw [List.cons_append, ih]

@[simp] theorem flatten_keepNonempty (chunk : List Char) (chunks : List (List Char)) :
    (keepNonempty chunk chunks).flatten = chunk ++ chunks.flatten := by
  unfold keepNonempty
  split
  · next empty => simp [List.isEmpty_iff.mp empty]
  · rfl

theorem flatten_chunks (text : List Char) : (chunks text).flatten = text := by
  fun_induction chunks text with
  | case1 text before found =>
      have whole := beforeAcronym_append text
      rw [found] at whole
      simpa using whole
  | case2 text before c rest found ih =>
      have whole := beforeAcronym_append text
      rw [found] at whole
      rw [flatten_keepNonempty, List.flatten_cons, ih, List.takeWhile_append_dropWhile, whole]

/-! ## Words of a chunk -/

@[simp] theorem flatten_finishWord (current : List Char) (words : List (List Char)) :
    (finishWord current words).flatten = current ++ words.flatten := by
  unfold finishWord
  split
  · next empty => simp [List.isEmpty_iff.mp empty]
  · rfl

theorem flatten_camelWordsFrom (text : List Char) :
    ∀ current, (camelWordsFrom current text).flatten = current ++ lowerLetters text := by
  induction text with
  | nil => exact fun current => by simp [camelWordsFrom, lowerLetters, lowercaseEach]
  | cons c rest ih =>
      intro current
      unfold camelWordsFrom
      split
      · next marked => simp [ih, lowerLetters, marked]
      · next letter =>
          have first : lowerLetters (c :: rest) = lowercase c ++ lowerLetters rest := by
            simp [lowerLetters, lowercaseEach, letter]
          split
          · rw [flatten_finishWord, ih, first]
          · rw [ih, first, List.append_assoc]

theorem flatten_chunkWords (chunk : List Char) : (chunkWords chunk).flatten = lowerLetters chunk := by
  unfold chunkWords
  split
  · simp [lowerLetters]
  · rw [camelWords, flatten_camelWordsFrom, List.nil_append]

theorem isUppercase_separator : isUppercase separator = false := by decide

theorem isAlphabetic_separator : isAlphabetic separator = false := by decide

/-! ## Words of an identifier -/

theorem markSeparators_append (left right : List Char) :
    markSeparators (left ++ right) = markSeparators left ++ markSeparators right :=
  List.map_append

theorem markSeparators_of_letters {text : List Char} (letters : ∀ c ∈ text, isAlphabetic c = true) :
    markSeparators text = text := by
  rw [markSeparators, List.map_congr_left fun c member => if_pos (letters c member), List.map_id']

theorem lowerLetters_markSeparators (name : List Char) :
    lowerLetters (markSeparators name) = lowercaseEach (name.filter isAlphabetic) := by
  have kept : (markSeparators name).filter (· ≠ separator) = name.filter isAlphabetic := by
    induction name with
    | nil => rfl
    | cons c rest ih =>
        have cut : markSeparators (c :: rest) =
          (if isAlphabetic c then c else separator) :: markSeparators rest := rfl
        rw [cut]
        cases letter : isAlphabetic c with
        | true =>
            have unlike : c ≠ separator := by
              rintro rfl
              rw [isAlphabetic_separator] at letter
              cases letter
            simp [letter, unlike, ← ih]
        | false => simp [letter, ← ih]
  rw [lowerLetters, kept]

/-- The words of an identifier are its letters in lower case. -/
theorem flatten_splitWords (name : List Char) :
    (splitWords name).flatten = lowercaseEach (name.filter isAlphabetic) := by
  have flat : ∀ chunks : List (List Char),
      (chunks.flatMap chunkWords).flatten = chunks.flatMap lowerLetters := by
    intro chunks
    induction chunks with
    | nil => rfl
    | cons chunk chunks ih =>
        rw [List.flatMap_cons, List.flatten_append, flatten_chunkWords, ih, List.flatMap_cons]
  rw [splitWords, flat, ← lowerLetters_flatten, flatten_chunks, lowerLetters_markSeparators]

theorem not_mem_splitWords {x : Char} (hx : isAlphabetic x = false) (dot : x ≠ '\u0307')
    {name word : List Char} (h : word ∈ splitWords name) : x ∉ word := by
  intro member
  have inLetters := List.mem_flatten.mpr ⟨word, h, member⟩
  rw [flatten_splitWords] at inLetters
  obtain ⟨c, letter, inLower⟩ := List.mem_flatMap.mp inLetters
  exact not_mem_lowercase hx dot (List.mem_filter.mp letter).2 inLower

end SymbolCorpus.Identifier
