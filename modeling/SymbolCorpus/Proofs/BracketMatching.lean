import SymbolCorpus.Name.Signature

/-! # Matching brackets

Taking out innermost bracketed parts until none is left comes to one pass from left to right, in which
a closing bracket is matched with the nearest opening one that has no partner yet. Of a text whose
brackets are nested well, what stands outside of all of them is left.
-/

namespace SymbolCorpus

namespace Brackets

variable {brackets : Brackets}

/-- What is left of a text when all matched regions are taken out. The first text is what was left
since the last opening bracket without a partner, that bracket among it, the last character first; the
others are the same for the opening brackets before it. -/
def matchFrom (brackets : Brackets) :
    List Char → List (List Char) → List Char → List Char
  | current, outer, [] => (current ++ outer.flatten).reverse
  | current, outer, c :: rest =>
      if c = brackets.closing then
        match outer with
        | [] => brackets.matchFrom (c :: current) [] rest
        | before :: outer => brackets.matchFrom before outer rest
      else if c = brackets.opening then brackets.matchFrom [c] (current :: outer) rest
      else brackets.matchFrom (c :: current) outer rest

/-- The text without its matched regions. -/
def unmatched (brackets : Brackets) (text : List Char) : List Char := brackets.matchFrom [] [] text

/-! ## One step of the pass -/

theorem matchFrom_closing (current before : List Char) (outer : List (List Char)) (rest : List Char) :
    brackets.matchFrom current (before :: outer) (brackets.closing :: rest) =
      brackets.matchFrom before outer rest := by
  rw [matchFrom, if_pos rfl]

theorem matchFrom_opening (apart : brackets.opening ≠ brackets.closing) (current : List Char)
    (outer : List (List Char)) (rest : List Char) :
    brackets.matchFrom current outer (brackets.opening :: rest) =
      brackets.matchFrom [brackets.opening] (current :: outer) rest := by
  cases outer <;> rw [matchFrom, if_neg apart, if_pos rfl]

theorem matchFrom_other {c : Char} (notClosing : c ≠ brackets.closing) (notOpening : c ≠ brackets.opening)
    (current : List Char) (outer : List (List Char)) (rest : List Char) :
    brackets.matchFrom current outer (c :: rest) = brackets.matchFrom (c :: current) outer rest := by
  cases outer <;> rw [matchFrom, if_neg notClosing, if_neg notOpening]

theorem matchFrom_of_afterClosing? {text after : List Char} (h : brackets.afterClosing? text = some after)
    (current before : List Char) (outer : List (List Char)) :
    brackets.matchFrom current (before :: outer) text = brackets.matchFrom before outer after := by
  induction text generalizing current with
  | nil => cases h
  | cons c rest ih =>
      unfold afterClosing? at h
      split at h
      · next closing =>
          cases h
          rw [closing, matchFrom_closing]
      · next notClosing =>
          split at h
          · cases h
          · next notOpening =>
              rw [matchFrom_other notClosing notOpening]
              exact ih h (c :: current)

/-! ## What a round takes out -/

theorem afterClosing?_eq_some_iff {text after : List Char} :
    brackets.afterClosing? text = some after ↔ ∃ inner, text = inner ++ brackets.closing :: after ∧
      brackets.opening ∉ inner ∧ brackets.closing ∉ inner := by
  constructor
  · intro h
    induction text with
    | nil => cases h
    | cons c rest ih =>
        unfold afterClosing? at h
        split at h
        · next closing =>
            cases h
            exact ⟨[], by rw [closing, List.nil_append], List.not_mem_nil, List.not_mem_nil⟩
        · next notClosing =>
            split at h
            · cases h
            · next notOpening =>
                obtain ⟨inner, rfl, noOpening, noClosing⟩ := ih h
                exact ⟨c :: inner, rfl, by simp [Ne.symm notOpening, noOpening],
                  by simp [Ne.symm notClosing, noClosing]⟩
  · rintro ⟨inner, rfl, noOpening, noClosing⟩
    induction inner with
    | nil => simp [afterClosing?]
    | cons c inner ih =>
        rw [List.mem_cons, not_or] at noOpening noClosing
        rw [List.cons_append, afterClosing?, if_neg (Ne.symm noClosing.1), if_neg (Ne.symm noOpening.1)]
        exact ih noOpening.2 noClosing.2

theorem stripInnermost_sublist (brackets : Brackets) (text : List Char) :
    (brackets.stripInnermost text).Sublist text := by
  fun_induction brackets.stripInnermost text with
  | case1 => exact .slnil
  | case2 rest after region ih =>
      obtain ⟨inner, rfl, -, -⟩ := afterClosing?_eq_some_iff.mp region
      have behind : after.Sublist (inner ++ brackets.closing :: after) :=
        (List.sublist_cons_self brackets.closing after).trans (List.sublist_append_right inner _)
      exact (ih.trans behind).cons brackets.opening
  | case3 rest noRegion ih => exact ih.cons_cons brackets.opening
  | case4 c rest notOpening ih => exact ih.cons_cons c

theorem length_stripInnermost_le (brackets : Brackets) (text : List Char) :
    (brackets.stripInnermost text).length ≤ text.length :=
  (stripInnermost_sublist brackets text).length_le

theorem strip_sublist (brackets : Brackets) (text : List Char) :
    (brackets.strip text).Sublist text := by
  fun_induction brackets.strip text with
  | case1 text stripped shorter ih => exact ih.trans (stripInnermost_sublist brackets text)
  | case2 text stripped same => exact List.Sublist.refl text

/-! ## Rounds and the pass -/

/-- The pass leaves of a text what it leaves of the text without its innermost regions. -/
theorem matchFrom_stripInnermost (apart : brackets.opening ≠ brackets.closing) (text : List Char)
    (current : List Char) (outer : List (List Char)) :
    brackets.matchFrom current outer (brackets.stripInnermost text) =
      brackets.matchFrom current outer text := by
  fun_induction brackets.stripInnermost text generalizing current outer with
  | case1 => rfl
  | case2 rest after region ih =>
      rw [ih, matchFrom_opening apart, matchFrom_of_afterClosing? region]
  | case3 rest noRegion ih => rw [matchFrom_opening apart, matchFrom_opening apart, ih]
  | case4 c rest notOpening ih =>
      by_cases closing : c = brackets.closing
      · subst closing
        cases outer with
        | nil => rw [matchFrom, matchFrom, if_pos rfl, if_pos rfl, ih]
        | cons before outer => rw [matchFrom_closing, matchFrom_closing, ih]
      · rw [matchFrom_other closing notOpening, matchFrom_other closing notOpening, ih]

theorem matchFrom_of_fixed (apart : brackets.opening ≠ brackets.closing) {text : List Char}
    (fixed : (brackets.stripInnermost text).length = text.length) (current : List Char) :
    brackets.matchFrom current [] text = current.reverse ++ text ∧
      (brackets.afterClosing? text = none → ∀ outer, brackets.matchFrom current outer text =
        (current ++ outer.flatten).reverse ++ text) := by
  fun_induction brackets.stripInnermost text generalizing current with
  | case1 => simp [matchFrom]
  | case2 rest after region ih =>
      have shorter := length_afterClosing?_lt brackets region
      have short := length_stripInnermost_le brackets after
      rw [List.length_cons] at fixed
      omega
  | case3 rest noRegion ih =>
      have inner : ∀ current, _ := fun current => (ih (by simpa using fixed) current).2 noRegion
      constructor
      · rw [matchFrom_opening apart, inner]
        simp
      · intro _ outer
        rw [matchFrom_opening apart, inner]
        simp
  | case4 c rest notOpening ih =>
      have inner := ih (by simpa using fixed) (c :: current)
      by_cases closing : c = brackets.closing
      · refine ⟨?_, fun open? => ?_⟩
        · rw [matchFrom, if_pos closing, inner.1]
          simp
        · simp [afterClosing?, closing] at open?
      · constructor
        · rw [matchFrom_other closing notOpening, inner.1]
          simp
        · intro open? outer
          have later : brackets.afterClosing? rest = none := by
            simpa [afterClosing?, closing, notOpening] using open?
          rw [matchFrom_other closing notOpening, inner.2 later]
          simp

/-- Round after round, exactly the matched regions are taken out. -/
theorem strip_eq_unmatched (apart : brackets.opening ≠ brackets.closing) (text : List Char) :
    brackets.strip text = brackets.unmatched text := by
  fun_induction brackets.strip text with
  | case1 text stripped shorter ih =>
      rw [ih]
      exact matchFrom_stripInnermost apart text [] []
  | case2 text stripped same =>
      have notShorter : ¬ (brackets.stripInnermost text).length < text.length := same
      have notLonger := length_stripInnermost_le brackets text
      have fixed : (brackets.stripInnermost text).length = text.length := by omega
      exact (matchFrom_of_fixed apart fixed []).1.symm

/-! ## Texts that are nested well -/

/-- The brackets that are nested in one another. -/
def nesting : List Brackets := [angle, round, square]

/-- An opening or a closing bracket of a kind that is nested. -/
def isBracket (c : Char) : Bool := nesting.any fun brackets =>
  c = brackets.opening || c = brackets.closing

/-- The brackets of a text are nested well, and the second text is what stands outside of them. -/
inductive Nested : List Char → List Char → Prop where
  | nil : Nested [] []
  | plain {c : Char} {rest outside : List Char} (plain : isBracket c = false) :
      Nested rest outside → Nested (c :: rest) (c :: outside)
  | region {brackets : Brackets} {inner inside rest outside : List Char}
      (kind : brackets ∈ nesting) : Nested inner inside → Nested rest outside →
      Nested (brackets.opening :: inner ++ brackets.closing :: rest) outside

theorem Nested.append {first outside second outside' : List Char} (h : Nested first outside)
    (h' : Nested second outside') : Nested (first ++ second) (outside ++ outside') := by
  induction h with
  | nil => exact h'
  | plain plain _ ih => exact .plain plain ih
  | @region brackets inner inside rest outside kind innerNested _ _ ih =>
      have whole := Nested.region kind innerNested ih
      simpa using whole

theorem Nested.of_plain {text : List Char} (plain : text.any isBracket = false) : Nested text text := by
  induction text with
  | nil => exact .nil
  | cons c rest ih =>
      rw [List.any_cons, Bool.or_eq_false_iff] at plain
      exact .plain plain.1 (ih plain.2)

theorem apart_of_nesting (kind : brackets ∈ nesting) : brackets.opening ≠ brackets.closing := by
  revert brackets
  decide

theorem ne_of_plain {c : Char} (plain : isBracket c = false) (kind : brackets ∈ nesting) :
    c ≠ brackets.opening ∧ c ≠ brackets.closing := by
  simpa using List.any_eq_false.mp plain brackets kind

theorem ne_of_kinds {other : Brackets} (h : brackets ∈ nesting) (h' : other ∈ nesting)
    (unlike : other ≠ brackets) :
    other.opening ≠ brackets.opening ∧ other.opening ≠ brackets.closing ∧
      other.closing ≠ brackets.opening ∧ other.closing ≠ brackets.closing := by
  revert other
  revert brackets
  decide

/-- Of a text that is nested well the pass for one kind of brackets leaves such a text with the same
    outside and without these brackets. -/
theorem Nested.exists_matchFrom {text outside : List Char} (h : Nested text outside)
    (kind : brackets ∈ nesting) :
    ∃ kept, Nested kept outside ∧ kept ⊆ text ∧ brackets.opening ∉ kept ∧
      ∀ current outer rest, brackets.matchFrom current outer (text ++ rest) =
        brackets.matchFrom (kept.reverse ++ current) outer rest := by
  have apart : brackets.opening ≠ brackets.closing := apart_of_nesting kind
  induction h with
  | nil => exact ⟨[], .nil, by simp, by simp, fun _ _ _ => rfl⟩
  | @plain c rest outside plain _ ih =>
      obtain ⟨kept, nested, within, gone, pass⟩ := ih
      obtain ⟨notOpening, notClosing⟩ := ne_of_plain plain kind
      refine ⟨c :: kept, .plain plain nested, List.cons_subset_cons c within, ?_, ?_⟩
      · simp [notOpening.symm, gone]
      · intro current outer after
        rw [List.cons_append, matchFrom_other notClosing notOpening, pass]
        simp
  | @region other inner inside rest outside otherKind _ _ ihInner ihRest =>
      obtain ⟨keptInner, nestedInner, withinInner, goneInner, passInner⟩ := ihInner
      obtain ⟨kept, nested, within, gone, pass⟩ := ihRest
      by_cases same : other = brackets
      · -- The region is taken out as a whole, whatever is left inside of it.
        subst same
        refine ⟨kept, nested, ?_, gone, fun current outer after => ?_⟩
        · intro c member
          simp [within member]
        · have text : other.opening :: inner ++ other.closing :: rest ++ after =
              other.opening :: (inner ++ other.closing :: (rest ++ after)) := by simp
          rw [text, matchFrom_opening apart, passInner, matchFrom_closing, pass]
      · obtain ⟨openOpen, openClose, closeOpen, closeClose⟩ := ne_of_kinds kind otherKind same
        refine ⟨other.opening :: keptInner ++ other.closing :: kept,
          .region otherKind nestedInner nested, ?_, ?_, fun current outer after => ?_⟩
        · intro c member
          simp only [List.cons_append, List.mem_cons, List.mem_append] at member ⊢
          rcases member with here | inside | here | later
          · exact .inl here
          · exact .inr (.inl (withinInner inside))
          · exact .inr (.inr (.inl here))
          · exact .inr (.inr (.inr (within later)))
        · simp [openOpen.symm, closeOpen.symm, goneInner, gone]
        · have text : other.opening :: inner ++ other.closing :: rest ++ after =
              other.opening :: (inner ++ other.closing :: (rest ++ after)) := by simp
          rw [text, matchFrom_other openClose openOpen, passInner,
            matchFrom_other closeClose closeOpen, pass]
          simp

theorem Nested.strip {text outside : List Char} (h : Nested text outside)
    (kind : brackets ∈ nesting) :
    Nested (brackets.strip text) outside ∧ brackets.strip text ⊆ text ∧
      brackets.opening ∉ brackets.strip text := by
  obtain ⟨kept, nested, within, gone, pass⟩ := h.exists_matchFrom kind
  have left : brackets.strip text = kept := by
    have run := pass [] [] []
    rw [List.append_nil, List.append_nil] at run
    rw [strip_eq_unmatched (apart_of_nesting kind), unmatched, run]
    simp [matchFrom]
  rw [left]
  exact ⟨nested, within, gone⟩

theorem Nested.eq_outside {text outside : List Char} (h : Nested text outside)
    (gone : ∀ brackets ∈ nesting, brackets.opening ∉ text) : text = outside := by
  induction h with
  | nil => rfl
  | plain _ _ ih =>
      exact congrArg _ (ih fun brackets kind member =>
        gone brackets kind (List.mem_cons_of_mem _ member))
  | region kind => exact absurd (by simp) (gone _ kind)

theorem strip_append (apart : brackets.opening ≠ brackets.closing) {plain : List Char}
    (noOpening : brackets.opening ∉ plain) (noClosing : brackets.closing ∉ plain) (text : List Char) :
    brackets.strip (text ++ plain) = brackets.strip text ++ plain := by
  have behind (current : List Char) (outer : List (List Char)) :
      brackets.matchFrom current outer plain = (current ++ outer.flatten).reverse ++ plain := by
    induction plain generalizing current with
    | nil => simp [matchFrom]
    | cons c rest ih =>
        rw [List.mem_cons, not_or] at noOpening noClosing
        rw [matchFrom_other (Ne.symm noClosing.1) (Ne.symm noOpening.1), ih noOpening.2 noClosing.2]
        simp
  have pass (current : List Char) (outer : List (List Char)) :
      brackets.matchFrom current outer (text ++ plain) =
        brackets.matchFrom current outer text ++ plain := by
    induction text generalizing current outer with
    | nil => rw [List.nil_append, behind, matchFrom]
    | cons c rest ih => cases outer <;> grind [matchFrom]
  rw [strip_eq_unmatched apart, strip_eq_unmatched apart, unmatched, unmatched, pass]

end Brackets

/-- All brackets of a text that is nested well are taken out with all that they enclose; of what stands
    outside of them, grave brackets with what they enclose. -/
theorem stripBrackets_of_nested {text outside : List Char} (h : Brackets.Nested text outside) :
    stripBrackets text = Brackets.grave.strip outside := by
  obtain ⟨noAngles, -, angles⟩ := h.strip (show Brackets.angle ∈ Brackets.nesting by decide)
  obtain ⟨noRounds, roundWithin, rounds⟩ := noAngles.strip (show Brackets.round ∈ Brackets.nesting by decide)
  obtain ⟨noSquares, squareWithin, squares⟩ := noRounds.strip (show Brackets.square ∈ Brackets.nesting by decide)
  have gone : ∀ brackets ∈ Brackets.nesting, brackets.opening ∉
      Brackets.square.strip (Brackets.round.strip (Brackets.angle.strip text)) := by
    simp only [Brackets.nesting, List.forall_mem_cons]
    exact ⟨fun member => angles (roundWithin (squareWithin member)),
      fun member => rounds (squareWithin member), squares, by simp⟩
  rw [stripBrackets, noSquares.eq_outside gone]

end SymbolCorpus
