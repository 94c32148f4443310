/-! # Spans of code points

A character class is given as a list of spans in increasing order. A span with step two holds every
other code point, which is how upper- and lower-case letters alternate in many alphabets.
-/

namespace SymbolCorpus.Text

/-- The code points `first`, `first + step`, … up to `last`. -/
structure Span where
  /-- Least code point. -/
  first : Nat
  /-- Upper bound, itself included when the steps reach it. -/
  last : Nat
  /-- Distance between neighbours. -/
  step : Nat
  deriving Repr, DecidableEq

namespace Span

/-- Membership of one code point. -/
def contains (span : Span) (code : Nat) : Bool :=
  span.first ≤ code && code ≤ span.last && (code - span.first) % span.step == 0

/-- Membership in a class: the walk stops at the first span that starts beyond the code point. -/
def member : List Span → Nat → Bool
  | [], _ => false
  | span :: rest, code =>
      if code < span.first then false else span.contains code || member rest code

/-- A member lies in one of the spans. -/
theorem exists_contains_of_member {table : List Span} {code : Nat} (h : member table code = true) :
    ∃ span ∈ table, span.contains code = true := by
  induction table with
  | nil => simp [member] at h
  | cons span rest ih =>
      unfold member at h
      split at h
      · simp at h
      · rcases (Bool.or_eq_true _ _).mp h with here | there
        · exact ⟨span, by simp, here⟩
        · obtain ⟨found, inRest, holds⟩ := ih there
          exact ⟨found, by simp [inRest], holds⟩

end Span

end SymbolCorpus.Text
