import SymbolCorpus.Proofs.Characters

/-! # Lower case is final

What a letter becomes in lower case is left as it is by lower case: no shift of the table leads into
a span that is shifted again. The dotted capital I is the only letter that leaves a mark behind, and
lower case does not lead to it.
-/

namespace SymbolCorpus.Text

namespace Span

/-- Two spans share no code point: their bounds are apart, or both hold every other code point and
    they begin at an odd distance. A single code point counts as either. -/
def disjoint (a b : Span) : Bool :=
  Nat.blt a.last b.first || Nat.blt b.last a.first ||
    ((a.step == 2 || a.first == a.last) && b.step == 2 && (a.first + b.first) % 2 == 1)

theorem contains_eq_false_of_disjoint {a b : Span} {code : Nat} (h : disjoint a b = true)
    (inside : a.contains code = true) : b.contains code = false := by
  by_contra both
  rw [Bool.not_eq_false] at both
  simp only [contains, Bool.and_eq_true, decide_eq_true_eq, beq_iff_eq] at inside both
  simp only [disjoint, Bool.or_eq_true, Bool.and_eq_true, beq_iff_eq, Nat.blt_eq] at h
  obtain ⟨⟨lowerA, upperA⟩, stepsA⟩ := inside
  obtain ⟨⟨lowerB, upperB⟩, stepsB⟩ := both
  rcases h with (before | behind) | ⟨⟨everyOther | single, everyOtherB⟩, odd⟩
  · omega
  · omega
  · rw [everyOther] at stepsA
    rw [everyOtherB] at stepsB
    omega
  · rw [everyOtherB] at stepsB
    omega

theorem contains_move {span : Span} {shift : Int} {code : Nat} (start : 0 ≤ span.first + shift)
    (h : span.contains code = true) : (span.move shift).contains (code + shift).toNat = true := by
  simp only [contains, Bool.and_eq_true, decide_eq_true_eq, beq_iff_eq] at h ⊢
  obtain ⟨⟨lower, upper⟩, steps⟩ := h
  have moved : (code + shift).toNat - (span.first + shift).toNat = code - span.first := by omega
  refine ⟨⟨?_, ?_⟩, ?_⟩
  · simp only [move]
    omega
  · simp only [move]
    omega
  · simp only [move, moved, steps]

end Span

/-! ## The table -/

/-- No shift leads below zero, to the dotted capital I, or into a span of the table. -/
theorem lowerShifts_checked :
    (lowerShifts.all fun entry =>
      decide (0 ≤ entry.span.first + entry.shift) &&
        (entry.span.move entry.shift).disjoint ⟨0x130, 0x130, 1⟩ &&
        lowerShifts.all fun other => (entry.span.move entry.shift).disjoint other.span) = true := by
  decide +kernel

theorem lowerCode_not_in {code : Nat} {entry : LowerShift}
    (found : lowerShifts.find? (·.span.contains code) = some entry) {other : Span}
    (apart : (entry.span.move entry.shift).disjoint other = true) :
    other.contains (lowerCode code) = false := by
  have checked := List.all_eq_true.mp lowerShifts_checked entry (List.mem_of_find?_eq_some found)
  simp only [Bool.and_eq_true, decide_eq_true_eq] at checked
  have inside := Span.contains_move checked.1.1 (by simpa using List.find?_some found)
  rw [lowerCode, found]
  exact Span.contains_eq_false_of_disjoint apart inside

theorem find?_lowerCode (code : Nat) : lowerShifts.find? (·.span.contains (lowerCode code)) = none := by
  cases found : lowerShifts.find? (·.span.contains code) with
  | none =>
      have same : lowerCode code = code := by rw [lowerCode, found]
      rw [same, found]
  | some entry =>
      have checked := List.all_eq_true.mp lowerShifts_checked entry (List.mem_of_find?_eq_some found)
      simp only [Bool.and_eq_true, decide_eq_true_eq] at checked
      rw [List.find?_eq_none]
      intro other member
      simpa using lowerCode_not_in found (List.all_eq_true.mp checked.2 other member)

theorem lowerCode_lowerCode (code : Nat) : lowerCode (lowerCode code) = lowerCode code := by
  rw [lowerCode.eq_def (lowerCode code), find?_lowerCode]

theorem lowerCode_ne_dottedI {code : Nat} (h : code ≠ 0x130) : lowerCode code ≠ 0x130 := by
  intro same
  cases found : lowerShifts.find? (·.span.contains code) with
  | none =>
      rw [lowerCode, found] at same
      exact h same
  | some entry =>
      have checked := List.all_eq_true.mp lowerShifts_checked entry (List.mem_of_find?_eq_some found)
      simp only [Bool.and_eq_true, decide_eq_true_eq] at checked
      have outside := lowerCode_not_in found checked.1.2
      rw [same] at outside
      cases outside

/-! ## Characters -/

/-- Letters of ASCII keep to it, lower case is final there, and the table has every letter that it
    changes. -/
theorem ascii_checked : ∀ code < 0x80,
    (Char.ofNat code).toLower.toNat < 0x80 ∧
      (Char.ofNat code).toLower.toLower = (Char.ofNat code).toLower ∧
      ((Char.ofNat code).toLower = Char.ofNat code ∨
        (lowerShifts.find? (·.span.contains code)).isSome) := by
  decide +kernel

/-- What stays as it is in lower case. -/
def IsLowered (c : Char) : Prop := lowercase c = [c]

theorem isLowered_toLower {c : Char} (ascii : c.toNat < 0x80) : IsLowered c.toLower := by
  have checked := ascii_checked c.toNat ascii
  rw [Char.ofNat_toNat] at checked
  rw [IsLowered, lowercase, if_pos checked.1, checked.2.1]

theorem isLowered_ofNat_lowerCode {code : Nat} (plain : code ≠ 0x130)
    (letter : Span.member alphabeticSpans (lowerCode code) = true) :
    IsLowered (Char.ofNat (lowerCode code)) ∧ Char.ofNat (lowerCode code) ≠ 'İ' := by
  have same := toNat_ofNat_of_alphabetic letter
  have undotted : Char.ofNat (lowerCode code) ≠ 'İ' := by
    intro dotted
    rw [dotted] at same
    exact lowerCode_ne_dottedI plain same.symm
  refine ⟨?_, undotted⟩
  unfold IsLowered lowercase
  split
  · next ascii =>
      rw [same] at ascii
      rcases (ascii_checked _ ascii).2.2 with lowered | shifted
      · rw [lowered]
      · rw [find?_lowerCode] at shifted
        cases shifted
  · rw [same, lowerCode_lowerCode]

/-- Every letter but the dotted capital I becomes one letter, and that one stays as it is. -/
theorem exists_lowercase_eq {c : Char} (letter : isAlphabetic c = true) (plain : c ≠ 'İ') :
    ∃ x, lowercase c = [x] ∧ isAlphabetic x = true ∧ IsLowered x ∧ x ≠ 'İ' := by
  by_cases ascii : c.toNat < 0x80
  · have lower : lowercase c = [c.toLower] := if_pos ascii
    have small : c.toLower.toNat < 0x80 := by
      have checked := (ascii_checked c.toNat ascii).1
      rwa [Char.ofNat_toNat] at checked
    refine ⟨c.toLower, lower, ?_, isLowered_toLower ascii, ?_⟩
    · rcases isAlphabetic_of_mem_lowercase letter (lower ▸ List.mem_singleton_self _) with kept | dot
      · exact kept
      · rw [dot] at small
        exact absurd small (by decide)
    · intro dotted
      rw [dotted] at small
      exact absurd small (by decide)
  · have lower : lowercase c = [Char.ofNat (lowerCode c.toNat)] := by
      rw [lowercase, if_neg ascii, if_neg plain]
    have code : c.toNat ≠ 0x130 := fun same => plain (Char.toNat_inj.mp same)
    have kept : Span.member alphabeticSpans (lowerCode c.toNat) = true := lowerCode_alphabetic letter
    obtain ⟨lowered, undotted⟩ := isLowered_ofNat_lowerCode code kept
    refine ⟨_, lower, ?_, lowered, undotted⟩
    rw [isAlphabetic, toNat_ofNat_of_alphabetic kept]
    exact kept

theorem lowercase_dottedI : lowercase 'İ' = ['i', '\u0307'] := by decide

theorem isLowered_of_mem_lowercase {c x : Char} (letter : isAlphabetic c = true)
    (h : x ∈ lowercase c) : IsLowered x ∧ x ≠ 'İ' := by
  by_cases dotted : c = 'İ'
  · subst dotted
    simp only [lowercase_dottedI, List.mem_cons, List.not_mem_nil, or_false] at h
    rcases h with rfl | rfl
    · exact ⟨by unfold IsLowered; decide, by decide⟩
    · exact ⟨by unfold IsLowered; decide +kernel, by decide⟩
  · obtain ⟨lower, only, -, lowered, undotted⟩ := exists_lowercase_eq letter dotted
    rw [only, List.mem_singleton] at h
    exact h ▸ ⟨lowered, undotted⟩

theorem isAlphabetic_of_mem_lowercase_of_ne {c x : Char} (letter : isAlphabetic c = true)
    (plain : c ≠ 'İ') (h : x ∈ lowercase c) : isAlphabetic x = true := by
  obtain ⟨lower, only, kept, -⟩ := exists_lowercase_eq letter plain
  rw [only, List.mem_singleton] at h
  exact h ▸ kept

end SymbolCorpus.Text
