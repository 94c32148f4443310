import Mathlib.Data.List.TakeWhile
import SymbolCorpus.Proofs.LowerCase
import SymbolCorpus.Proofs.Words

/-! # Acronyms are words of their own

A run of two or more capitals is one word of an identifier, and it parts the identifier: the words
before it and those behind it are the words of the texts that stand there.
-/

namespace SymbolCorpus.Text

namespace Span

/-- A walk through a table that meets no code point of a span. Like the walk for a code point it stops
    at the first span that starts beyond. -/
def sharesNone (a : Span) : List Span → Bool
  | [] => true
  | b :: rest => Nat.ble (a.last + 1) b.first || (disjoint a b || disjoint b a) && sharesNone a rest

theorem member_eq_false_of_sharesNone {a : Span} {table : List Span} {code : Nat}
    (h : sharesNone a table = true) (inside : a.contains code = true) : member table code = false := by
  induction table with
  | nil => rfl
  | cons b rest ih =>
      have bounds := bounds_of_contains inside
      simp only [sharesNone, Bool.or_eq_true, Bool.and_eq_true, Nat.ble_eq] at h
      unfold member
      rcases h with beyond | ⟨apart, further⟩
      · rw [if_pos (by omega)]
      · have outside : b.contains code = false := by
          rcases apart with left | right
          · exact contains_eq_false_of_disjoint left inside
          · by_contra both
            rw [contains_eq_false_of_disjoint right (Bool.not_eq_false _ ▸ both)] at inside
            cases inside
        rw [outside, ih further, Bool.or_false, ite_self]

end Span

open SymbolCorpus.Text.Span

/-- The spans of every other capital that lie in no one span of letters. -/
def sparseCapitals : List Span := [⟨0x1f59, 0x1f5f, 2⟩, ⟨0x2124, 0x2128, 2⟩]

/-- What is found by going through the tables: every capital is a letter, and none is a small letter
    as well. -/
theorem capitals_checked :
    allWithin alphabeticSpans []
        (uppercaseSpans.filter fun span => !sparseCapitals.contains span) = true ∧
      (sparseCapitals.all fun span => (List.range (span.last + 1 - span.first)).all fun distance =>
        !span.contains (span.first + distance) ||
          member alphabeticSpans (span.first + distance)) = true ∧
      (uppercaseSpans.all fun span => sharesNone span lowercaseSpans) = true := by
  decide +kernel

theorem isAlphabetic_of_isUppercase {c : Char} (h : isUppercase c = true) :
    isAlphabetic c = true := by
  obtain ⟨span, inTable, inside⟩ := exists_contains_of_member h
  obtain ⟨lower, upper⟩ := bounds_of_contains inside
  obtain ⟨dense, sparse, -⟩ := capitals_checked
  by_cases listed : sparseCapitals.contains span = true
  · have codes := List.all_eq_true.mp sparse span (List.contains_iff_mem.mp listed)
    have here := List.all_eq_true.mp codes (c.toNat - span.first) (List.mem_range.mpr (by omega))
    rw [Nat.add_sub_cancel' lower, inside] at here
    simpa [isAlphabetic] using here
  · have kept : span ∈ uppercaseSpans.filter fun span => !sparseCapitals.contains span :=
      List.mem_filter.mpr ⟨inTable, by simpa using listed⟩
    obtain ⟨letters, inLetters, covers⟩ := exists_within_of_allWithin (List.nil_suffix ..) dense kept
    exact member_of_contains alphabeticSpans_sorted inLetters (contains_of_within covers lower upper)

theorem isLowercase_eq_false_of_isUppercase {c : Char} (h : isUppercase c = true) :
    isLowercase c = false := by
  obtain ⟨span, inTable, inside⟩ := exists_contains_of_member h
  exact member_eq_false_of_sharesNone (List.all_eq_true.mp capitals_checked.2.2 span inTable) inside

end SymbolCorpus.Text

namespace SymbolCorpus.Identifier

open Text

/-- A text at whose end no capital stands. -/
def EndsSmall (text : List Char) : Prop := ∀ c ∈ text.getLast?, isUppercase c = false

/-- A text at whose start no capital stands. -/
def StartsSmall (text : List Char) : Prop := ∀ c ∈ text.head?, isUppercase c = false

/-- Two capitals or more. -/
structure IsAcronym (run : List Char) : Prop where
  long : 2 ≤ run.length
  capitals : ∀ c ∈ run, isUppercase c = true

/-! ## Chunks around an acronym -/

theorem IsAcronym.ne_nil {run : List Char} (h : IsAcronym run) : run ≠ [] := by
  rintro rfl
  exact absurd h.long (by simp)

theorem IsAcronym.starts {run : List Char} (h : IsAcronym run) (rest : List Char) :
    startsAcronym (run ++ rest) = true := by
  obtain ⟨long, capitals⟩ := h
  match run, long with
  | a :: b :: more, _ => simp [startsAcronym, capitals a, capitals b]

theorem beforeAcronym_append_acronym {text rest : List Char} (ends : EndsSmall text)
    (starts : startsAcronym rest = true) :
    beforeAcronym (text ++ rest) = ((beforeAcronym text).1, (beforeAcronym text).2 ++ rest) := by
  induction text with
  | nil =>
      cases rest with
      | nil => cases starts
      | cons c rest => simp [beforeAcronym, starts]
  | cons c text ih =>
      have here : startsAcronym (c :: (text ++ rest)) = startsAcronym (c :: text) := by
        cases text with
        | nil =>
            have small : isUppercase c = false := ends c rfl
            cases rest <;> simp [startsAcronym, small]
        | cons d text => rfl
      have later : EndsSmall text := by
        intro d member
        refine ends d ?_
        rw [Option.mem_def] at member ⊢
        rw [List.getLast?_cons, member]
        rfl
      rw [List.cons_append, beforeAcronym, beforeAcronym, here, ih later]
      split <;> rfl

theorem keepNonempty_append (chunk : List Char) (chunks others : List (List Char)) :
    keepNonempty chunk (chunks ++ others) = keepNonempty chunk chunks ++ others := by
  unfold keepNonempty
  split <;> rfl

theorem chunks_of_found {text before rest : List Char} {c : Char}
    (found : beforeAcronym text = (before, c :: rest)) :
    chunks text = keepNonempty before
      ((c :: rest).takeWhile isUppercase :: chunks ((c :: rest).dropWhile isUppercase)) := by
  rw [chunks.eq_def, found]

theorem dropWhile_isUppercase_ne_nil {text : List Char} {c : Char} (ends : EndsSmall (c :: text)) :
    (c :: text).dropWhile isUppercase ≠ [] := by
  intro all
  have last := List.getLast?_eq_some_getLast (List.cons_ne_nil c text)
  have capital := List.dropWhile_eq_nil_iff.mp all _ (List.getLast_mem (List.cons_ne_nil c text))
  rw [ends _ last] at capital
  cases capital

theorem EndsSmall.of_append {text rest : List Char} (ends : EndsSmall (text ++ rest)) :
    EndsSmall rest := by
  intro c member
  exact ends c (List.mem_getLast?_append_of_mem_getLast? member)

theorem takeWhile_acronym {run rest : List Char} (h : IsAcronym run) (starts : StartsSmall rest) :
    (run ++ rest).takeWhile isUppercase = run ∧ (run ++ rest).dropWhile isUppercase = rest := by
  rw [List.takeWhile_append_of_pos h.capitals, List.dropWhile_append_of_pos h.capitals]
  cases rest with
  | nil => simp
  | cons c rest =>
      have small : isUppercase c = false := starts c rfl
      simp [small]

/-- An acronym is a chunk, and the chunks on either side of it are those of the texts there. -/
theorem chunks_append_acronym {text run rest : List Char} (ends : EndsSmall text) (h : IsAcronym run)
    (starts : StartsSmall rest) :
    chunks (text ++ (run ++ rest)) = chunks text ++ run :: chunks rest := by
  obtain ⟨taken, left⟩ := takeWhile_acronym h starts
  fun_induction chunks text with
  | case1 text before found =>
      have joined := beforeAcronym_append_acronym ends (h.starts rest)
      rw [found, List.nil_append] at joined
      obtain ⟨a, more, cut⟩ : ∃ a more, run ++ rest = a :: more :=
        List.exists_cons_of_ne_nil (List.append_ne_nil_of_left_ne_nil h.ne_nil rest)
      rw [cut] at joined taken left ⊢
      rw [chunks_of_found joined, taken, left, ← keepNonempty_append, List.nil_append]
  | case2 text before c more found ih =>
      have joined := beforeAcronym_append_acronym ends (h.starts rest)
      rw [found, List.cons_append] at joined
      have whole := beforeAcronym_append text
      rw [found] at whole
      have behind : EndsSmall (c :: more) := EndsSmall.of_append (whole ▸ ends)
      have some := dropWhile_isUppercase_ne_nil behind
      rw [← List.takeWhile_append_dropWhile (p := isUppercase) (l := c :: more)] at behind
      have cutTaken : (c :: (more ++ (run ++ rest))).takeWhile isUppercase =
          (c :: more).takeWhile isUppercase := by
        rw [← List.cons_append, List.takeWhile_append, if_neg]
        intro all
        have whole := (List.takeWhile_prefix isUppercase).eq_of_length all
        exact some (List.dropWhile_eq_nil_iff.mpr (List.takeWhile_eq_self_iff.mp whole))
      have cutLeft : (c :: (more ++ (run ++ rest))).dropWhile isUppercase =
          (c :: more).dropWhile isUppercase ++ (run ++ rest) := by
        rw [← List.cons_append, List.dropWhile_append, if_neg (by simpa using some)]
      rw [chunks_of_found joined, cutTaken, cutLeft, ih (EndsSmall.of_append behind),
        ← keepNonempty_append, List.cons_append]

/-! ## The words of an identifier with an acronym -/

theorem chunkWords_acronym {run : List Char} (h : IsAcronym run) :
    chunkWords run = [lowercaseEach run] := by
  have upper : isAllUpper run = true := by
    obtain ⟨c, more, rfl⟩ := List.exists_cons_of_ne_nil h.ne_nil
    have noSmall : (c :: more).any isLowercase = false := by
      simpa using fun d member => isLowercase_eq_false_of_isUppercase (h.capitals d member)
    rw [isAllUpper, noSmall]
    simp [h.capitals c List.mem_cons_self]
  have kept : run.filter (· ≠ separator) = run := by
    refine List.filter_eq_self.mpr fun c member => ?_
    have other : c ≠ separator := by
      rintro rfl
      have capital := h.capitals separator member
      rw [isUppercase_separator] at capital
      cases capital
    simpa using other
  rw [chunkWords, if_pos upper, kept]

theorem isUppercase_mark {c : Char} (small : isUppercase c = false) :
    isUppercase (if isAlphabetic c then c else separator) = false := by
  split
  · exact small
  · exact isUppercase_separator

theorem endsSmall_markSeparators {text : List Char} (ends : EndsSmall text) :
    EndsSmall (markSeparators text) := by
  intro c member
  rw [markSeparators, List.getLast?_map] at member
  obtain ⟨last, atEnd, rfl⟩ := Option.map_eq_some_iff.mp member
  exact isUppercase_mark (ends last atEnd)

theorem startsSmall_markSeparators {text : List Char} (starts : StartsSmall text) :
    StartsSmall (markSeparators text) := by
  intro c member
  rw [markSeparators, List.head?_map] at member
  obtain ⟨first, atStart, rfl⟩ := Option.map_eq_some_iff.mp member
  exact isUppercase_mark (starts first atStart)

/-- A longest run of two or more capitals is exactly one word, and parts the identifier: the words
    before it are those of the text before it, and those behind it are those of the text behind it. -/
theorem splitWords_acronym {before run behind : List Char} (ends : EndsSmall before)
    (acronym : IsAcronym run) (starts : StartsSmall behind) :
    splitWords (before ++ run ++ behind) =
      splitWords before ++ [lowercaseEach run] ++ splitWords behind := by
  have letters : markSeparators run = run :=
    markSeparators_of_letters fun c member => isAlphabetic_of_isUppercase (acronym.capitals c member)
  have cut := chunks_append_acronym (endsSmall_markSeparators ends) acronym
    (startsSmall_markSeparators starts)
  rw [splitWords, List.append_assoc, markSeparators_append, markSeparators_append, letters, cut,
    List.flatMap_append, List.flatMap_cons, chunkWords_acronym acronym, List.append_assoc]
  rfl

/-- One small letter, or one separator, is enough to part two acronyms. -/
theorem splitWords_acronymsApart :
    EndsSmall "IO_".toList ∧ IsAcronym "HTTP".toList ∧ StartsSmall "dFD".toList ∧
      splitWords "IO_HTTPdFD".toList =
        splitWords "IO_".toList ++ ["http".toList] ++ splitWords "dFD".toList := by
  have ends : EndsSmall "IO_".toList := by
    intro c last
    obtain rfl : '_' = c := Option.some.inj last
    decide
  have acronym : IsAcronym "HTTP".toList := ⟨by decide, List.all_eq_true.mp (by decide)⟩
  have starts : StartsSmall "dFD".toList := by
    intro c first
    obtain rfl : 'd' = c := Option.some.inj first
    decide
  exact ⟨ends, acronym, starts, splitWords_acronym ends acronym starts⟩

end SymbolCorpus.Identifier
