import Mathlib.Data.List.TakeWhile
import SymbolCorpus.Proofs.Characters
import SymbolCorpus.PseudoCode.Mask

/-! # Masking run by run

Two notions of a word meet where a name is masked. The mask looks at alphanumeric
neighbours and low lines, a lexer at word characters, which leave out the signs
for numbers such as `²` and let combining marks in. Text is cut here into runs of
characters that are either, and masking treats every run by itself.
-/

namespace SymbolCorpus.PseudoCode

open Text

/-- A character of names in the sense of the lexer or of the mask. -/
def isNamePart (c : Char) : Bool := isWord c || isIdentifierChar c

/-- A number that no word has: a superscript, a fraction, a digit in a circle. -/
def isNumberSign (c : Char) : Bool := isNumeric c && !isWord c

theorem isNamePart_of_isWord {c : Char} (h : isWord c = true) : isNamePart c = true := by
  simp [isNamePart, h]

theorem isNumberSign_of_isIdentifierChar {c : Char} (h : isIdentifierChar c = true)
    (outside : isWord c = false) : isNumberSign c = true := by
  simp only [isIdentifierChar, isAlphanumeric, Bool.or_eq_true, decide_eq_true_eq] at h
  rcases h with (letter | number) | rfl
  · rw [isWord_of_isAlphabetic letter] at outside
    cases outside
  · simp [isNumberSign, number, outside]
  · exact absurd outside (by decide)

/-- All characters of a text are parts of names. -/
def AllNameParts (text : List Char) : Prop := ∀ c ∈ text, isNamePart c = true

/-- No part of a name stands at the end of the first text or at the start of the second. -/
def Apart (before behind : List Char) : Prop :=
  (∀ c ∈ before.getLast?, isNamePart c = false) ∧ ∀ c ∈ behind.head?, isNamePart c = false

/-- A longest stretch of name parts in a text. -/
def IsRun (text run : List Char) : Prop :=
  AllNameParts run ∧ ∃ before behind, text = before ++ run ++ behind ∧ Apart before behind

/-! ## One separator -/

theorem isPrefixOf?_separated {name : List Char} {c : Char} (hc : c ∉ name) (x y : List Char) :
    name.isPrefixOf? (x ++ c :: y) = (name.isPrefixOf? x).map (· ++ c :: y) := by
  induction name generalizing x with
  | nil => simp [List.isPrefixOf?]
  | cons n name ih =>
      have hn : n ≠ c := fun same => hc (same ▸ List.mem_cons_self)
      cases x with
      | nil => simp [List.isPrefixOf?, hn]
      | cons d x =>
          simp only [List.cons_append, List.isPrefixOf?]
          split
          · exact ih (fun member => hc (List.mem_cons_of_mem n member)) x
          · rfl

/-- What precedes a text counts only as far as it continues an identifier. -/
theorem maskFrom_congr {name : List Char} {before before' : Option Char}
    (h : continues before = continues before') (text : List Char) :
    maskFrom name before 0 text = maskFrom name before' 0 text := by
  cases text with
  | nil => rfl
  | cons c rest => simp only [maskFrom, h]

theorem isIdentifierChar_eq_false {c : Char} (hc : isNamePart c = false) :
    isIdentifierChar c = false := by
  simp only [isNamePart, Bool.or_eq_false_iff] at hc
  exact hc.2

theorem not_mem_of_isNamePart {name : List Char} {c : Char} (hn : AllNameParts name)
    (hc : isNamePart c = false) : c ∉ name := fun member => by simp [hn c member] at hc

/-- Masking never looks across a separator. -/
theorem maskFrom_separated {name : List Char} {c : Char} (absent : c ∉ name)
    (nonempty : name ≠ []) (gap : isIdentifierChar c = false) (y : List Char) :
    ∀ (x : List Char) (before : Option Char) (skip : Nat), skip ≤ x.length →
      maskFrom name before skip (x ++ c :: y) =
        maskFrom name before skip x ++ c :: maskFrom name none 0 y := by
  have forgotten : continues (some c) = false := gap
  intro x
  -- What is still skipped lies in the text before the separator.
  induction x with
  | nil =>
      intro before skip le
      obtain rfl : skip = 0 := Nat.le_zero.mp le
      have unmatched : name.isPrefixOf? (c :: y) = none := by
        cases name with
        | nil => exact absurd rfl nonempty
        | cons n name =>
            have : n ≠ c := fun same => absent (same ▸ List.mem_cons_self)
            simp [List.isPrefixOf?, this]
      have unread : maskFrom name (some c) 0 y = maskFrom name none 0 y := maskFrom_congr forgotten y
      simp only [List.nil_append, maskFrom, unmatched, unread]
  | cons d x ih =>
      intro before skip le
      cases skip with
      | succ left => exact ih (some d) left (Nat.le_of_succ_le_succ le)
      | zero =>
          simp only [List.cons_append, maskFrom]
          rw [← List.cons_append, isPrefixOf?_separated absent]
          cases matched : name.isPrefixOf? (d :: x) with
          | none =>
              simp only [Option.map_none, ih (some d) 0 (Nat.zero_le _), List.cons_append]
          | some after =>
              have shorter : name.length - 1 ≤ x.length := by
                have same := List.isPrefixOf?_eq_some_iff_append_eq.mp matched
                have lengths := congrArg List.length same
                simp only [List.length_append, List.length_cons] at lengths
                omega
              have behind : continues (after ++ c :: y).head? = continues after.head? := by
                cases after with
                | nil => exact forgotten
                | cons _ _ => rfl
              simp only [Option.map_some, behind, ih (some d) _ shorter, List.append_assoc]

theorem mask_separated {name : List Char} {c : Char} (absent : c ∉ name)
    (nonempty : name ≠ []) (gap : isIdentifierChar c = false) (x y : List Char) :
    mask name (x ++ c :: y) = mask name x ++ c :: mask name y := by
  have named : name.isEmpty = false := by simpa using nonempty
  simp only [mask, named, Bool.false_eq_true, if_false]
  exact maskFrom_separated absent nonempty gap y x none 0 (Nat.zero_le _)

/-! ## One run -/

theorem maskedName_parts : AllNameParts maskedName := by
  have all : (maskedName.all isNamePart) = true := by decide
  exact List.all_eq_true.mp all

theorem maskFrom_parts {name : List Char} (hn : AllNameParts name) (text : List Char)
    (ht : AllNameParts text) : ∀ before skip, AllNameParts (maskFrom name before skip text) := by
  induction text with
  | nil =>
      intro before skip c member
      simp [maskFrom] at member
  | cons d rest ih =>
      have restParts := ih fun c member => ht c (List.mem_cons_of_mem d member)
      intro before skip
      cases skip with
      | succ left => exact restParts (some d) left
      | zero =>
          simp only [maskFrom]
          cases name.isPrefixOf? (d :: rest) with
          | none =>
              intro c member
              rcases List.mem_cons.mp member with rfl | inRest
              · exact ht c List.mem_cons_self
              · exact restParts (some d) 0 c inRest
          | some after =>
              intro c member
              rcases List.mem_append.mp member with shown | inRest
              · split at shown
                · exact hn c shown
                · exact maskedName_parts c shown
              · exact restParts (some d) _ c inRest

theorem mask_parts {name text : List Char} (hn : AllNameParts name) (ht : AllNameParts text) :
    AllNameParts (mask name text) := by
  unfold mask
  split
  · exact ht
  · exact maskFrom_parts hn text ht none 0

theorem maskFrom_skip_all (name : List Char) (text : List Char) :
    ∀ before, maskFrom name before text.length text = [] := by
  induction text with
  | nil => exact fun _ => rfl
  | cons c rest ih => exact fun _ => ih (some c)

theorem mask_self {name : List Char} (nonempty : name ≠ []) : mask name name = maskedName := by
  cases name with
  | nil => exact absurd rfl nonempty
  | cons c rest =>
      have whole : (c :: rest).isPrefixOf? (c :: rest) = some [] :=
        List.isPrefixOf?_eq_some_iff_append_eq.mpr (List.append_nil _)
      simp only [mask, List.isEmpty_cons, Bool.false_eq_true, if_false, maskFrom, whole,
        List.length_cons, Nat.add_sub_cancel, maskFrom_skip_all, List.append_nil]
      rfl

/-! ## All runs -/

theorem takeWhile_run {run behind : List Char} (hr : AllNameParts run)
    (hb : ∀ c ∈ behind.head?, isNamePart c = false) :
    (run ++ behind).takeWhile isNamePart = run := by
  rw [List.takeWhile_append_of_pos hr]
  cases behind with
  | nil => simp
  | cons c behind => simp [hb c rfl]

theorem eq_nil_of_apart {before : List Char} (hb : AllNameParts before)
    (apart : ∀ c ∈ before.getLast?, isNamePart c = false) : before = [] := by
  cases h : before.getLast? with
  | none => exact List.getLast?_eq_none_iff.mp h
  | some c =>
      have part := hb c (List.mem_of_getLast? h)
      rw [apart c h] at part
      cases part

theorem run_of_prefix {before run behind parts rest : List Char} (hr : AllNameParts run)
    (apart : Apart before behind) (hp : AllNameParts parts)
    (hrest : ∀ c ∈ rest.head?, isNamePart c = false)
    (same : before ++ run ++ behind = parts ++ rest) (inside : before.length ≤ parts.length)
    : before = [] ∧ run = parts := by
  have start : before <+: parts := by
    rw [List.append_assoc] at same
    exact List.prefix_of_prefix_length_le (List.prefix_append _ _)
      (same ▸ List.prefix_append parts rest) inside
  obtain rfl := eq_nil_of_apart (fun c member => hp c (start.subset member)) apart.1
  refine ⟨rfl, ?_⟩
  rw [List.nil_append] at same
  rw [← takeWhile_run hr apart.2, same, takeWhile_run hp hrest]

theorem IsRun.behind {text run : List Char} {c : Char} (h : IsRun text run)
    (hc : isNamePart c = false) (parts : List Char) : IsRun (parts ++ c :: text) run := by
  obtain ⟨hr, before, behind, rfl, left, right⟩ := h
  refine ⟨hr, parts ++ c :: before, behind, by simp, fun last member => ?_, right⟩
  cases before with
  | nil =>
      rw [List.getLast?_concat] at member
      exact Option.some.inj member ▸ hc
  | cons d before =>
      rw [List.getLast?_append_of_ne_nil _ (by simp), List.getLast?_cons_cons] at member
      exact left last member

/-- Every run of a masked text is the masked form of a run of the text. -/
theorem exists_run_of_mask {name run : List Char} (hn : AllNameParts name) (nonempty : name ≠ [])
    (hr : AllNameParts run) {text before behind : List Char}
    (masked : mask name text = before ++ run ++ behind) (apart : Apart before behind) :
    ∃ source, IsRun text source ∧ mask name source = run := by
  -- A text is its first run, a separator, and a shorter text.
  induction h : text.length using Nat.strong_induction_on generalizing text before behind with
  | _ length ih =>
      have cut := List.takeWhile_append_dropWhile (p := isNamePart) (l := text)
      have parts : AllNameParts (text.takeWhile isNamePart) := fun c => List.mem_takeWhile_imp
      cases left : text.dropWhile isNamePart with
      | nil =>
          rw [left, List.append_nil] at cut
          rw [cut] at parts
          have whole : before ++ run ++ behind = mask name text ++ [] := by
            rw [List.append_nil, masked]
          obtain ⟨-, rfl⟩ := run_of_prefix hr apart (mask_parts hn parts) (by simp) whole
            (by rw [masked]; simp)
          exact ⟨text, ⟨parts, [], [], by simp, by simp [Apart]⟩, rfl⟩
      | cons c rest =>
          have hc : isNamePart c = false := by
            have := List.head?_dropWhile_not isNamePart text
            rw [left] at this
            simpa using this
          rw [left] at cut
          rw [← cut, mask_separated (not_mem_of_isNamePart hn hc) nonempty (isIdentifierChar_eq_false hc)]
            at masked
          generalize text.takeWhile isNamePart = first at cut parts masked
          subst cut
          rcases Nat.lt_or_ge (mask name first).length before.length with beyond | inside
          · obtain ⟨passed, rfl⟩ : mask name first ++ [c] <+: before := by
              have start : mask name first ++ [c] <+: before ++ (run ++ behind) :=
                ⟨mask name rest, by rw [← List.append_assoc before, ← masked]; simp⟩
              exact List.prefix_of_prefix_length_le start (List.prefix_append _ _)
                (by simp only [List.length_append, List.length_singleton]; omega)
            have later : mask name rest = passed ++ run ++ behind := by simpa using masked
            have laterApart : Apart passed behind := by
              refine ⟨fun last member => apart.1 last ?_, apart.2⟩
              have some : passed ≠ [] := by
                rintro rfl
                simp at member
              rwa [List.getLast?_append_of_ne_nil _ some]
            obtain ⟨source, isRun, same⟩ := ih rest.length (by simp at h; omega) later laterApart rfl
            exact ⟨source, isRun.behind hc first, same⟩
          · obtain ⟨-, rfl⟩ := run_of_prefix hr apart (mask_parts hn parts) (by simpa using hc)
              masked.symm inside
            exact ⟨first, ⟨parts, [], c :: rest, by simp, by simpa [Apart] using hc⟩, rfl⟩

end SymbolCorpus.PseudoCode
