import SymbolCorpus.Corpus.Files

/-! # Lines of a text

Lines that are written one after another come back when the text is cut at its newlines, as long as
none of them has a newline in it. A line that has one makes two.
-/

namespace SymbolCorpus

namespace Text

section Split

variable {α : Type} [DecidableEq α]

theorem splitOn_ne_nil (separator : α) (text : List α) : splitOn separator text ≠ [] := by
  fun_induction splitOn separator text with
  | _ => simp

theorem splitOn_separator (separator : α) (rest : List α) :
    splitOn separator (separator :: rest) = [] :: splitOn separator rest := by
  rw [splitOn, if_pos rfl]

theorem splitOn_cons {separator c : α} (h : c ≠ separator) {rest part : List α}
    {parts : List (List α)} (cut : splitOn separator rest = part :: parts) :
    splitOn separator (c :: rest) = (c :: part) :: parts := by
  rw [splitOn, if_neg h, cut]

theorem splitOn_eq_cons (separator : α) (text : List α) :
    ∃ part parts, splitOn separator text = part :: parts :=
  List.exists_cons_of_ne_nil (splitOn_ne_nil separator text)

theorem length_splitOn (separator : α) (text : List α) :
    (splitOn separator text).length = text.count separator + 1 := by
  induction text with
  | nil => rfl
  | cons c rest ih =>
      by_cases here : c = separator
      · subst here
        rw [splitOn_separator, List.length_cons, ih, List.count_cons_self]
      · obtain ⟨part, parts, cut⟩ := splitOn_eq_cons separator rest
        rw [splitOn_cons here cut, List.count_cons_of_ne here, ← ih, cut]
        rfl

theorem splitOn_of_not_mem {separator : α} {text : List α} (h : separator ∉ text) :
    splitOn separator text = [text] := by
  induction text with
  | nil => rfl
  | cons c rest ih =>
      rw [List.mem_cons, not_or] at h
      exact splitOn_cons (Ne.symm h.1) (ih h.2)

theorem splitOn_append_separator (separator : α) (before after : List α) :
    splitOn separator (before ++ separator :: after) =
      splitOn separator before ++ splitOn separator after := by
  induction before with
  | nil => exact splitOn_separator separator after
  | cons c rest ih =>
      by_cases here : c = separator
      · subst here
        rw [List.cons_append, splitOn_separator, ih, splitOn_separator, List.cons_append]
      · obtain ⟨part, parts, cut⟩ := splitOn_eq_cons separator rest
        rw [cut, List.cons_append] at ih
        rw [List.cons_append, splitOn_cons here ih, splitOn_cons here cut, List.cons_append]

theorem exists_splitOn_append (separator : α) (before : List α) :
    ∃ parts last, ∀ after, separator ∉ after →
      splitOn separator (before ++ after) = parts ++ [last ++ after] := by
  induction before with
  | nil => exact ⟨[], [], fun after plain => splitOn_of_not_mem plain⟩
  | cons c rest ih =>
      obtain ⟨parts, last, cut⟩ := ih
      by_cases here : c = separator
      · subst here
        refine ⟨[] :: parts, last, fun after plain => ?_⟩
        rw [List.cons_append, splitOn_separator, cut after plain, List.cons_append]
      · cases parts with
        | nil => exact ⟨[], c :: last, fun after plain => splitOn_cons here (cut after plain)⟩
        | cons part parts =>
            exact ⟨(c :: part) :: parts, last, fun after plain => splitOn_cons here (cut after plain)⟩

end Split

/-! ## Texts with a separator between them -/

@[simp] theorem joinWith_nil (separator : List Char) : joinWith separator [] = [] := rfl

@[simp] theorem joinWith_singleton (separator text : List Char) :
    joinWith separator [text] = text := by
  simp [joinWith]

@[simp] theorem joinWith_cons_cons (separator text next : List Char) (texts : List (List Char)) :
    joinWith separator (text :: next :: texts) =
      text ++ separator ++ joinWith separator (next :: texts) := by
  simp [joinWith, List.intercalate]

theorem joinWith_eq_nil_iff {separator : List Char} {texts : List (List Char)}
    (nonempty : ∀ text ∈ texts, text ≠ []) : joinWith separator texts = [] ↔ texts = [] := by
  cases texts with
  | nil => simp
  | cons text texts =>
      have first := nonempty text List.mem_cons_self
      cases texts with
      | nil => simp [first]
      | cons next texts => simp [first]

theorem head?_joinWith {separator : List Char} {texts : List (List Char)}
    (nonempty : ∀ text ∈ texts, text ≠ []) :
    (joinWith separator texts).head? = texts.head?.bind List.head? := by
  cases texts with
  | nil => rfl
  | cons text texts =>
      obtain ⟨c, rest, start⟩ := List.exists_cons_of_ne_nil (nonempty text List.mem_cons_self)
      cases texts with
      | nil => simp
      | cons next texts => simp [start]

theorem getLast?_joinWith {separator : List Char} {texts : List (List Char)}
    (nonempty : ∀ text ∈ texts, text ≠ []) :
    (joinWith separator texts).getLast? = texts.getLast?.bind List.getLast? := by
  induction texts with
  | nil => rfl
  | cons text texts ih =>
      cases texts with
      | nil => simp
      | cons next texts =>
          have others := fun later member => nonempty later (List.mem_cons_of_mem text member)
          have some : joinWith separator (next :: texts) ≠ [] := fun empty =>
            List.cons_ne_nil next texts ((joinWith_eq_nil_iff others).mp empty)
          have final := List.getLast?_eq_some_getLast some
          rw [joinWith_cons_cons, List.getLast?_append, final, Option.some_or, ← final, ih others,
            List.getLast?_cons_cons]

theorem splitOn_joinWith {separator : Char} {texts : List (List Char)} (some : texts ≠ [])
    (plain : ∀ text ∈ texts, separator ∉ text) :
    splitOn separator (joinWith [separator] texts) = texts := by
  induction texts with
  | nil => exact absurd rfl some
  | cons text texts ih =>
      have first := splitOn_of_not_mem (plain text List.mem_cons_self)
      cases texts with
      | nil => rw [joinWith_singleton, first]
      | cons next texts =>
          have others := ih (List.cons_ne_nil next texts) fun later member =>
            plain later (List.mem_cons_of_mem text member)
          rw [joinWith_cons_cons, List.append_assoc, List.singleton_append,
            splitOn_append_separator, first, others, List.singleton_append]

theorem joinWith_inj {separator : Char} {texts others : List (List Char)}
    (nonempty : ∀ text ∈ texts, text ≠ []) (nonemptyOther : ∀ text ∈ others, text ≠ [])
    (plain : ∀ text ∈ texts, separator ∉ text) (plainOther : ∀ text ∈ others, separator ∉ text) :
    joinWith [separator] texts = joinWith [separator] others ↔ texts = others := by
  constructor
  · intro same
    by_cases none : texts = []
    · subst none
      exact ((joinWith_eq_nil_iff nonemptyOther).mp same.symm).symm
    · have some : others ≠ [] := by
        rintro rfl
        exact none ((joinWith_eq_nil_iff nonempty).mp same)
      rw [← splitOn_joinWith none plain, same, splitOn_joinWith some plainOther]
  · rintro rfl
    rfl

end Text

open Text

/-! ## Texts of lines -/

@[simp] theorem textOfLines_nil : textOfLines [] = [] := rfl

@[simp] theorem textOfLines_cons (line : List Char) (lines : List (List Char)) :
    textOfLines (line :: lines) = line ++ '\n' :: textOfLines lines := by
  simp [textOfLines]

theorem splitOn_textOfLines {lines : List (List Char)} (h : ∀ line ∈ lines, '\n' ∉ line) :
    splitOn '\n' (textOfLines lines) = lines ++ [[]] := by
  induction lines with
  | nil => rfl
  | cons line lines ih =>
      have first := h line List.mem_cons_self
      have others := ih fun line later => h line (List.mem_cons_of_mem _ later)
      rw [textOfLines_cons, splitOn_append_separator, splitOn_of_not_mem first, others]
      rfl

theorem count_textOfLines (lines : List (List Char)) :
    lines.length ≤ (textOfLines lines).count '\n' ∧
      ((textOfLines lines).count '\n' = lines.length ↔ ∀ line ∈ lines, '\n' ∉ line) := by
  induction lines with
  | nil => simp
  | cons line lines ih =>
      obtain ⟨enough, exact⟩ := ih
      have total : (textOfLines (line :: lines)).count '\n' =
          line.count '\n' + (textOfLines lines).count '\n' + 1 := by
        rw [textOfLines_cons, List.count_append, List.count_cons_self]
        omega
      rw [total, List.length_cons, List.forall_mem_cons, ← exact, ← List.count_eq_zero]
      constructor
      · omega
      · omega

/-- Cut at its newlines a text of lines gives as many lines as were written only when they are the
    lines that were written and none has a newline in it. -/
theorem splitOn_textOfLines_iff {lines written : List (List Char)}
    (same : lines.length = written.length) :
    splitOn '\n' (textOfLines written) = lines ++ [[]] ↔
      lines = written ∧ ∀ line ∈ written, '\n' ∉ line := by
  constructor
  · intro cut
    -- The parts count the newlines, so that no line has room for one.
    have count : (textOfLines written).count '\n' + 1 = lines.length + 1 := by
      rw [← length_splitOn, cut, List.length_append, List.length_singleton]
    have unbroken := (count_textOfLines written).2.mp (by omega)
    rw [splitOn_textOfLines unbroken] at cut
    exact ⟨(List.append_cancel_right cut).symm, unbroken⟩
  · rintro ⟨rfl, unbroken⟩
    exact splitOn_textOfLines unbroken

/-! ## Files of lines -/

/-- A file has a number of newlines, and cut at them it gives these lines back. -/
def Disk.HoldsLines (disk : Disk) (path : String) (count : Nat) (lines : List (List Char)) : Prop :=
  ∃ text, disk.readText path = .ok text ∧ text.count '\n' = count ∧
    splitOn '\n' text = lines ++ [[]]

theorem Disk.holdsLines_iff {disk : Disk} {path : String} {lines written : List (List Char)}
    (read : disk.readText path = .ok (textOfLines written)) (same : lines.length = written.length) :
    disk.HoldsLines path lines.length lines ↔ lines = written ∧ ∀ line ∈ written, '\n' ∉ line := by
  constructor
  · rintro ⟨text, readAgain, -, cut⟩
    rw [read] at readAgain
    cases readAgain
    exact (splitOn_textOfLines_iff same).mp cut
  · rintro ⟨rfl, unbroken⟩
    exact ⟨textOfLines lines, read, (count_textOfLines lines).2.mpr unbroken,
      splitOn_textOfLines unbroken⟩

end SymbolCorpus
