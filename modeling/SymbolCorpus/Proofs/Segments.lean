import SymbolCorpus.Identifier.Segmenter
import SymbolCorpus.Proofs.Subwords
import SymbolCorpus.Proofs.Words

/-! # Segments keep the letters

Words, pieces and the suffix merge together: a segmenter gives back the letters of a name in lower
case, cut into nonempty tokens.
-/

namespace SymbolCorpus.Identifier

open Text

theorem flatten_mergeSuffix (dictionary : Dictionary) (pieces : List (List Char)) :
    (mergeSuffix dictionary pieces).flatten = pieces.flatten := by
  fun_induction mergeSuffix dictionary pieces with
  | case1 => rfl
  | case2 piece => rfl
  | case3 stem last merges =>
      rw [List.flatten_singleton, List.flatten_cons, List.flatten_singleton]
  | case4 stem last apart => rfl
  | case5 piece next last rest ih => rw [List.flatten_cons, List.flatten_cons, ih]

theorem mem_mergeSuffix {dictionary : Dictionary} {pieces : List (List Char)} {token : List Char}
    (h : token ∈ mergeSuffix dictionary pieces) :
    token ∈ pieces ∨ ∃ stem ∈ pieces, ∃ last ∈ pieces, token = stem ++ last := by
  fun_induction mergeSuffix dictionary pieces with
  | case1 => exact .inl h
  | case2 piece => exact .inl h
  | case3 stem last merges =>
      obtain rfl := List.mem_singleton.mp h
      exact .inr ⟨stem, by simp, last, by simp, rfl⟩
  | case4 stem last apart => exact .inl h
  | case5 piece next last rest ih =>
      rcases List.mem_cons.mp h with rfl | later
      · exact .inl List.mem_cons_self
      · rcases ih later with member | ⟨stem, inStem, last, inLast, whole⟩
        · exact .inl (List.mem_cons_of_mem piece member)
        · exact .inr ⟨stem, List.mem_cons_of_mem piece inStem, last,
            List.mem_cons_of_mem piece inLast, whole⟩

set_option maxRecDepth 4000 in
theorem isAlphabetic_wordStart : isAlphabetic wordStart = false := by decide

namespace Segmenter

theorem flatten_segment (segmenter : Segmenter) (name : List Char) :
    (segmenter.segment name).flatten = lowercaseEach (name.filter isAlphabetic) := by
  have unmarked : ∀ word ∈ splitWords name, wordStart ∉ word := fun word member =>
    not_mem_splitWords isAlphabetic_wordStart (by decide) member
  rw [segment, flatten_mergeSuffix, SubwordModel.flatten_pieces _ unmarked, flatten_splitWords]

theorem ne_nil_of_mem_segment {segmenter : Segmenter} {name token : List Char}
    (h : token ∈ segmenter.segment name) : token ≠ [] := by
  rcases mem_mergeSuffix h with piece | ⟨stem, piece, last, -, rfl⟩
  · exact SubwordModel.ne_nil_of_mem_pieces piece
  · intro empty
    exact SubwordModel.ne_nil_of_mem_pieces piece (List.append_eq_nil_iff.mp empty).1

theorem wordStart_not_mem_segment {segmenter : Segmenter} {name token : List Char}
    (h : token ∈ segmenter.segment name) : wordStart ∉ token := by
  rcases mem_mergeSuffix h with piece | ⟨stem, inStem, last, inLast, rfl⟩
  · exact SubwordModel.not_mem_of_mem_pieces piece
  · intro member
    rcases List.mem_append.mp member with first | second
    · exact SubwordModel.not_mem_of_mem_pieces inStem first
    · exact SubwordModel.not_mem_of_mem_pieces inLast second

theorem segment_eq_nil_iff {segmenter : Segmenter} {name : List Char} :
    segmenter.segment name = [] ↔ ∀ c ∈ name, isAlphabetic c = false := by
  have whole := segmenter.flatten_segment name
  constructor
  · intro empty c member
    rw [empty] at whole
    have letters := List.flatMap_eq_nil_iff.mp whole.symm
    cases letter : isAlphabetic c with
    | false => rfl
    | true =>
        exact absurd (letters c (List.mem_filter.mpr ⟨member, letter⟩)) (lowercase_ne_nil c)
  · intro others
    have none : name.filter isAlphabetic = [] :=
      List.filter_eq_nil_iff.mpr fun c member => by simp [others c member]
    rw [none] at whole
    cases tokens : segmenter.segment name with
    | nil => rfl
    | cons token rest =>
        have first : token ∈ segmenter.segment name := tokens ▸ List.mem_cons_self
        have empty := List.flatten_eq_nil_iff.mp whole token first
        exact absurd empty (ne_nil_of_mem_segment first)

/-- Segmenting loses, adds and reorders no letter: the tokens put together are the lower-case letters
    of the name. No token is empty or has a mark, and there is none only when there is no letter. -/
theorem segment_letters (segmenter : Segmenter) (name : List Char) :
    (segmenter.segment name).flatten = lowercaseEach (name.filter isAlphabetic) ∧
      (∀ token ∈ segmenter.segment name, token ≠ [] ∧ wordStart ∉ token) ∧
      (segmenter.segment name = [] ↔ ∀ c ∈ name, isAlphabetic c = false) :=
  ⟨flatten_segment segmenter name,
    fun _ member => ⟨ne_nil_of_mem_segment member, wordStart_not_mem_segment member⟩,
    segment_eq_nil_iff⟩

end Segmenter

end SymbolCorpus.Identifier
