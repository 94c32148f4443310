import Std.Data.String.ToNat
import SymbolCorpus.Address
import SymbolCorpus.Proofs.Lines

/-! # Address ranges

The key of a range tells both of its ends. The tests on ranges compare ends only:
a range that ends before it begins does not even overlap itself, and it can be
enclosed by a section that does not contain its first address.
-/

namespace SymbolCorpus.AddressRange

open Text

theorem lowLine_not_mem_toString (value : Nat) : '_' ∉ (toString value).toList := by
  intro member
  rw [Nat.toString_eq_repr, Nat.toList_repr] at member
  have digit := Nat.isDigit_of_mem_toDigits (by decide) (by decide) member
  exact absurd digit (by decide)

theorem splitOn_key (range : AddressRange) :
    splitOn '_' range.key.toList =
      [(toString range.first.toNat).toList, (toString range.last.toNat).toList] := by
  have whole : range.key.toList =
      (toString range.first.toNat).toList ++ '_' :: (toString range.last.toNat).toList := by
    simp [key]
  rw [whole, splitOn_append_separator, splitOn_of_not_mem (lowLine_not_mem_toString _),
    splitOn_of_not_mem (lowLine_not_mem_toString _), List.singleton_append]

theorem key_injective {range other : AddressRange} (h : range.key = other.key) : range = other := by
  have parts := splitOn_key other
  rw [← h, splitOn_key, List.cons.injEq, List.cons.injEq] at parts
  obtain ⟨first, last, -⟩ := parts
  have firsts := Nat.repr_injective (String.toList_inj.mp first)
  have lasts := Nat.repr_injective (String.toList_inj.mp last)
  rw [AddressRange.mk.injEq]
  exact ⟨UInt64.toNat_inj.mp firsts, UInt64.toNat_inj.mp lasts⟩

/-- A range overlaps itself unless it ends before it begins. -/
theorem overlaps_self (range : AddressRange) :
    range.overlaps range = decide (range.first ≤ range.last) := by
  simp [overlaps]

theorem contains_first {textSection range : AddressRange} (h : textSection.encloses range = true) :
    textSection.contains range.first = decide (range.first ≤ textSection.last) := by
  simp only [encloses, Bool.and_eq_true, decide_eq_true_eq] at h
  simp [contains, h.1]

theorem contains_first_of_le {textSection range : AddressRange}
    (h : textSection.encloses range = true) (ordered : range.first ≤ range.last) :
    textSection.contains range.first = true := by
  rw [contains_first h, decide_eq_true_eq]
  simp only [encloses, Bool.and_eq_true, decide_eq_true_eq] at h
  exact UInt64.le_trans ordered h.2

end SymbolCorpus.AddressRange
