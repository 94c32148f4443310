import Mathlib.Data.List.Basic
import SymbolCorpus.Text.Lowering

/-! # Character classes compared

The classes are tables of spans, so one class is compared with another span by
span. No code point is enumerated: two tables are apart when their spans are,
and a table lies in another when each of its spans does.
-/

namespace SymbolCorpus.Text

namespace Span

/-- The span with all its code points moved by a shift. -/
def move (shift : Int) (span : Span) : Span :=
  ⟨(span.first + shift).toNat, (span.last + shift).toNat, span.step⟩

/-- The second span has every code point between the bounds of the first. -/
def within (a b : Span) : Bool := Nat.ble a.last b.last && Nat.ble b.first a.first && b.step == 1

/-- A walk through a table that meets no code point between the bounds of a span. It stops where the
    walk for a code point of the span would. -/
def avoids (a : Span) : List Span → Bool
  | [] => true
  | b :: rest =>
      Nat.ble (a.last + 1) b.first || Nat.ble (b.last + 1) a.first && avoids a rest

/-- The rest of a table from the first span that does not end before a code point. -/
def endingFrom (code : Nat) : List Span → List Span
  | [] => []
  | b :: rest => bif Nat.ble code b.last then b :: rest else endingFrom code rest

/-- Every span lies within a span of the table. The walk through the table goes on from one span to
    the next and begins anew only for a span that lies before. -/
def allWithin (table : List Span) : List Span → List Span → Bool
  | _, [] => true
  | ahead, a :: spans =>
      match endingFrom a.last (bif ahead.head?.any (Nat.ble ·.first a.first) then ahead else table) with
      | [] => false
      | b :: later => within a b && allWithin table (b :: later) spans

theorem bounds_of_contains {span : Span} {code : Nat} (h : span.contains code = true) :
    span.first ≤ code ∧ code ≤ span.last := by
  simp only [contains, Bool.and_eq_true, decide_eq_true_eq] at h
  exact h.1

theorem contains_of_within {a b : Span} {code : Nat} (h : within a b = true)
    (lower : a.first ≤ code) (upper : code ≤ a.last) : b.contains code = true := by
  simp only [within, Bool.and_eq_true, beq_iff_eq, Nat.ble_eq] at h
  obtain ⟨⟨last, first⟩, step⟩ := h
  simp only [contains, step, Nat.mod_one, Bool.and_eq_true, decide_eq_true_eq, beq_self_eq_true,
    and_true]
  omega

theorem member_eq_false_of_avoids {a : Span} {table : List Span} {code : Nat}
    (h : avoids a table = true) (lower : a.first ≤ code) (upper : code ≤ a.last) :
    member table code = false := by
  induction table with
  | nil => rfl
  | cons b rest ih =>
      simp only [avoids, Bool.or_eq_true, Bool.and_eq_true, Nat.ble_eq] at h
      unfold member
      rcases h with beyond | ⟨before, further⟩
      · rw [if_pos (by omega)]
      · split
        · rfl
        · have outside : b.contains code = false := by
            cases inside : b.contains code with
            | false => rfl
            | true =>
                have bounds := bounds_of_contains inside
                omega
          rw [outside, ih further, Bool.or_false]

theorem member_eq_false_of_all_avoid {spans table : List Span} {code : Nat}
    (h : (spans.all (avoids · table)) = true) (hm : member spans code = true) :
    member table code = false := by
  obtain ⟨a, ha, containsA⟩ := exists_contains_of_member hm
  obtain ⟨lower, upper⟩ := bounds_of_contains containsA
  exact member_eq_false_of_avoids (List.all_eq_true.mp h a ha) lower upper

theorem endingFrom_suffix (code : Nat) (table : List Span) : endingFrom code table <:+ table := by
  induction table with
  | nil => exact List.suffix_rfl
  | cons b rest ih =>
      unfold endingFrom
      cases Nat.ble code b.last with
      | true => exact List.suffix_rfl
      | false => exact ih.trans (List.suffix_cons b rest)

theorem exists_within_of_allWithin {table ahead spans : List Span} (suffix : ahead <:+ table)
    (h : allWithin table ahead spans = true) {a : Span} (ha : a ∈ spans) :
    ∃ b ∈ table, within a b = true := by
  induction spans generalizing ahead with
  | nil => cases ha
  | cons first rest ih =>
      unfold allWithin at h
      split at h
      · cases h
      · next b later found =>
          -- Whether the walk went on or began anew, it stays in an end of the table.
          simp only [Bool.and_eq_true] at h
          have here : b :: later <:+ table := by
            rw [← found]
            cases ahead.head?.any (Nat.ble ·.first first.first) with
            | true => exact (endingFrom_suffix _ ahead).trans suffix
            | false => exact endingFrom_suffix _ table
          rcases List.mem_cons.mp ha with rfl | inRest
          · exact ⟨b, here.subset List.mem_cons_self, h.1⟩
          · exact ih here h.2 inRest

theorem member_of_contains {table : List Span} {code : Nat} {span : Span}
    (sorted : table.Pairwise fun a b => a.first ≤ b.first) (hs : span ∈ table)
    (hc : span.contains code = true) : member table code = true := by
  induction table with
  | nil => simp at hs
  | cons first rest ih =>
      obtain ⟨before, restSorted⟩ := List.pairwise_cons.mp sorted
      have bounds := bounds_of_contains hc
      unfold member
      -- The walk does not stop before the span, since the spans before it begin no later.
      rcases List.mem_cons.mp hs with rfl | inRest
      · rw [if_neg (by omega), hc, Bool.true_or]
      · have := before span inRest
        rw [if_neg (by omega), ih restSorted inRest, Bool.or_true]

theorem pairwise_of_isChain {table : List Span}
    (h : table.IsChain fun a b => a.first ≤ b.first) :
    table.Pairwise fun a b => a.first ≤ b.first := by
  have : IsTrans Span fun a b => a.first ≤ b.first := ⟨fun _ _ _ => Nat.le_trans⟩
  exact List.isChain_iff_pairwise.mp h

end Span

open SymbolCorpus.Text.Span

/-- What is found by going through the tables: white space is in no class of word characters, and
    the alphabetic spans are in order, lie within the code points and keep to lower case. -/
theorem tables_checked :
    ([alphabeticSpans, decimalSpans, connectorSpans, markSpans].all fun table =>
        blankSpans.all (avoids · table)) = true ∧
      (alphabeticSpans.IsChain fun a b => a.first ≤ b.first) ∧
      avoids ⟨0xd800, 0xdfff, 1⟩ alphabeticSpans = true ∧
      (alphabeticSpans.all fun span => Nat.ble span.last 0x10ffff) = true ∧
      allWithin alphabeticSpans [] (lowerShifts.map fun entry => entry.span.move entry.shift) = true ∧
      ∀ code < 0x80, member alphabeticSpans code = true →
        member alphabeticSpans (Char.ofNat code).toLower.toNat = true := by
  decide +kernel

theorem isWord_of_isAlphabetic {c : Char} (h : isAlphabetic c = true) : isWord c = true := by
  simp [isWord, h]

theorem isWord_eq_false_of_isBlank {c : Char} (h : isBlank c = true) : isWord c = false := by
  obtain ⟨apart, -⟩ := tables_checked
  simp only [List.all_cons, List.all_nil, Bool.and_true, Bool.and_eq_true] at apart
  have letters : isAlphabetic c = false := member_eq_false_of_all_avoid apart.1 h
  have digits : isDecimal c = false := member_eq_false_of_all_avoid apart.2.1 h
  have connectors : member connectorSpans c.toNat = false :=
    member_eq_false_of_all_avoid apart.2.2.1 h
  have marks : member markSpans c.toNat = false := member_eq_false_of_all_avoid apart.2.2.2 h
  have joiner : isJoiner c = false := by
    by_contra hj
    simp only [isJoiner, Bool.not_eq_false, Bool.or_eq_true, beq_iff_eq] at hj
    rcases hj with rfl | rfl <;> exact absurd h (by decide)
  simp [isWord, letters, digits, connectors, marks, joiner]

/-! ## Lower case -/

theorem alphabeticSpans_sorted : alphabeticSpans.Pairwise fun a b => a.first ≤ b.first :=
  pairwise_of_isChain tables_checked.2.1

theorem isValidChar_of_alphabetic {code : Nat} (h : member alphabeticSpans code = true) :
    code.isValidChar := by
  obtain ⟨-, -, gap, last, -⟩ := tables_checked
  obtain ⟨span, hs, hc⟩ := exists_contains_of_member h
  have bounds := bounds_of_contains hc
  have top := Nat.ble_eq.mp (List.all_eq_true.mp last span hs)
  by_cases surrogate : 0xd800 ≤ code ∧ code ≤ 0xdfff
  · rw [member_eq_false_of_avoids gap surrogate.1 surrogate.2] at h
    cases h
  · unfold Nat.isValidChar
    omega

theorem toNat_ofNat_of_alphabetic {code : Nat} (h : member alphabeticSpans code = true) :
    (Char.ofNat code).toNat = code := by
  rw [Char.ofNat, dif_pos (isValidChar_of_alphabetic h)]
  rfl

theorem lowerCode_alphabetic {code : Nat} (h : member alphabeticSpans code = true) :
    member alphabeticSpans (lowerCode code) = true := by
  unfold lowerCode
  split
  · next entry found =>
      obtain ⟨-, -, -, -, shifted, -⟩ := tables_checked
      have containsCode : entry.span.contains code = true := by
        simpa using List.find?_some found
      obtain ⟨span, hs, hw⟩ := exists_within_of_allWithin (List.nil_suffix ..) shifted
        (List.mem_map.mpr ⟨entry, List.mem_of_find?_eq_some found, rfl⟩)
      have bounds := bounds_of_contains containsCode
      refine member_of_contains alphabeticSpans_sorted hs (contains_of_within hw ?_ ?_)
      · simp only [move]
        omega
      · simp only [move]
        omega
  · exact h

/-- Lower case takes letters to letters, but for the dot that a dotted capital I leaves behind. -/
theorem isAlphabetic_of_mem_lowercase {c x : Char} (hc : isAlphabetic c = true)
    (hx : x ∈ lowercase c) : isAlphabetic x = true ∨ x = '\u0307' := by
  unfold lowercase at hx
  split at hx
  · next ascii =>
      obtain ⟨-, -, -, -, -, lowered⟩ := tables_checked
      obtain rfl := List.mem_singleton.mp hx
      left
      simpa only [isAlphabetic, Char.ofNat_toNat] using lowered c.toNat ascii hc
  · split at hx
    · simp only [List.mem_cons, List.not_mem_nil, or_false] at hx
      rcases hx with rfl | rfl
      · exact .inl (by decide)
      · exact .inr rfl
    · obtain rfl := List.mem_singleton.mp hx
      have letter := lowerCode_alphabetic hc
      left
      rw [isAlphabetic, toNat_ofNat_of_alphabetic letter]
      exact letter

theorem lowercase_ne_nil (c : Char) : lowercase c ≠ [] := by
  unfold lowercase
  split
  · simp
  · split <;> simp

theorem not_mem_lowercase {c x : Char} (hx : isAlphabetic x = false) (dot : x ≠ '\u0307')
    (hc : isAlphabetic c = true) : x ∉ lowercase c := by
  intro member
  rcases isAlphabetic_of_mem_lowercase hc member with letter | rfl
  · rw [hx] at letter
    exact Bool.false_ne_true letter
  · exact dot rfl

end SymbolCorpus.Text
