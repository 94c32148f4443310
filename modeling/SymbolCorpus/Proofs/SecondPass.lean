import SymbolCorpus.Proofs.ShownWords

/-! # Names shown twice

The target of a call is shown again although it is a shown name already. A second pass cuts the words
that it reads in the tokens of the first into pieces anew and merges a suffix once more, and so it need
not come back to the same name.
-/

namespace SymbolCorpus.Identifier

open Text

/-! ## The suffix of a shown name -/

theorem mergeSuffix_concat (dictionary : Dictionary) (front : List (List Char))
    (stem last : List Char) :
    mergeSuffix dictionary (front ++ [stem, last]) =
      if isSuffixOf dictionary stem last then front ++ [stem ++ last] else front ++ [stem, last] := by
  induction front with
  | nil => rfl
  | cons piece front ih =>
      have longer : mergeSuffix dictionary (piece :: (front ++ [stem, last])) =
          piece :: mergeSuffix dictionary (front ++ [stem, last]) := by
        cases front with
        | nil => rfl
        | cons next front =>
            cases front with
            | nil => rfl
            | cons => rfl
      rw [List.cons_append, longer, ih]
      split
      · rfl
      · rfl

theorem mergeSuffix_of_unmerged {dictionary : Dictionary} {pieces : List (List Char)}
    (unmerged : ∀ front stem last, pieces = front ++ [stem, last] →
      isSuffixOf dictionary stem last = false) : mergeSuffix dictionary pieces = pieces := by
  fun_induction mergeSuffix dictionary pieces with
  | case1 => rfl
  | case2 piece => rfl
  | case3 stem last merges =>
      rw [unmerged [] stem last rfl] at merges
      cases merges
  | case4 stem last apart => rfl
  | case5 piece next last rest ih =>
      rw [ih fun front stem final shape => unmerged (piece :: front) stem final (by rw [shape]; rfl)]

theorem mergeSuffix_eq_iff {dictionary : Dictionary} {pieces tokens : List (List Char)} :
    mergeSuffix dictionary pieces = tokens ↔
      (pieces = tokens ∧ ∀ front stem last, tokens = front ++ [stem, last] →
        isSuffixOf dictionary stem last = false) ∨
      ∃ front stem last, tokens = front ++ [stem ++ last] ∧ pieces = front ++ [stem, last] ∧
        isSuffixOf dictionary stem last = true := by
  constructor
  · rintro rfl
    by_cases merges : ∃ front stem last, pieces = front ++ [stem, last] ∧
        isSuffixOf dictionary stem last = true
    · obtain ⟨front, stem, last, rfl, suffix⟩ := merges
      refine .inr ⟨front, stem, last, ?_, rfl, suffix⟩
      rw [mergeSuffix_concat, if_pos suffix]
    · have unmerged : ∀ front stem last, pieces = front ++ [stem, last] →
          isSuffixOf dictionary stem last = false := by
        intro front stem last shape
        by_contra suffix
        exact merges ⟨front, stem, last, shape, by simpa using suffix⟩
      rw [mergeSuffix_of_unmerged unmerged]
      exact .inl ⟨rfl, unmerged⟩
  · rintro (⟨rfl, unmerged⟩ | ⟨front, stem, last, rfl, rfl, merges⟩)
    · exact mergeSuffix_of_unmerged unmerged
    · rw [mergeSuffix_concat, if_pos merges]

/-- Tokens that a second pass leaves as they are: the words it finds in them are cut into the tokens
    again, or into the tokens with the last one in two that it puts together. -/
inductive Settled (segmenter : Segmenter) (tokens : List (List Char)) : Prop where
  /-- The last two tokens stay apart. -/
  | apart (pieces : segmenter.model.pieces (rereadWords tokens) = tokens)
      (unmerged : ∀ front stem last, tokens = front ++ [stem, last] →
        isSuffixOf segmenter.dictionary stem last = false)
  /-- The last token is cut and merged. -/
  | merged (front : List (List Char)) (stem last : List Char)
      (whole : tokens = front ++ [stem ++ last])
      (pieces : segmenter.model.pieces (rereadWords tokens) = front ++ [stem, last])
      (merges : isSuffixOf segmenter.dictionary stem last = true)

theorem settled_iff (segmenter : Segmenter) {tokens : List (List Char)} :
    Settled segmenter tokens ↔
      mergeSuffix segmenter.dictionary (segmenter.model.pieces (rereadWords tokens)) = tokens := by
  rw [mergeSuffix_eq_iff]
  constructor
  · intro settled
    cases settled with
    | apart pieces unmerged => exact .inl ⟨pieces, unmerged⟩
    | merged front stem last whole pieces merges =>
        exact .inr ⟨front, stem, last, whole, pieces, merges⟩
  · rintro (⟨pieces, unmerged⟩ | ⟨front, stem, last, whole, pieces, merges⟩)
    · exact .apart pieces unmerged
    · exact .merged front stem last whole pieces merges

namespace Segmenter

variable {segmenter : Segmenter} {name : List Char}

/-! ## The second pass -/

theorem exists_of_mem_token {token : List Char} {x : Char} (member : token ∈ segmenter.segment name)
    (inside : x ∈ token) : ∃ c ∈ name, isAlphabetic c = true ∧ x ∈ lowercase c := by
  have inLetters := List.mem_flatten.mpr ⟨token, member, inside⟩
  rw [flatten_segment] at inLetters
  obtain ⟨c, letter, inLower⟩ := List.mem_flatMap.mp inLetters
  exact ⟨c, (List.mem_filter.mp letter).1, (List.mem_filter.mp letter).2, inLower⟩

theorem space_not_mem_token {token : List Char} (member : token ∈ segmenter.segment name) :
    ' ' ∉ token := by
  intro inside
  obtain ⟨c, -, letter, inLower⟩ := exists_of_mem_token member inside
  exact not_mem_lowercase (by decide) (by decide) letter inLower

theorem display_eq_iff {other : List Char} :
    segmenter.display name = segmenter.display other ↔
      segmenter.segment name = segmenter.segment other :=
  joinWith_inj (fun _ => ne_nil_of_mem_segment) (fun _ => ne_nil_of_mem_segment)
    (fun _ => space_not_mem_token) (fun _ => space_not_mem_token)

/-- A shown name has a mark on its own only where a dotted capital I was. -/
theorem dot_mem_display_iff : '\u0307' ∈ segmenter.display name ↔ 'İ' ∈ name := by
  have inTokens : '\u0307' ∈ segmenter.display name ↔
      '\u0307' ∈ (segmenter.segment name).flatten := by
    rw [display, mem_joinWith (by decide), List.mem_flatten]
  rw [inTokens, flatten_segment]
  constructor
  · intro member
    obtain ⟨c, letter, inLower⟩ := List.mem_flatMap.mp member
    obtain ⟨inName, letter⟩ := List.mem_filter.mp letter
    by_cases dotted : c = 'İ'
    · exact dotted ▸ inName
    · have kept := isAlphabetic_of_mem_lowercase_of_ne letter dotted inLower
      exact absurd kept (by decide)
  · intro member
    refine List.mem_flatMap.mpr ⟨'İ', List.mem_filter.mpr ⟨member, by decide⟩, ?_⟩
    rw [lowercase_dottedI]
    simp

theorem dottedI_not_mem_display : 'İ' ∉ segmenter.display name := by
  rw [display, mem_joinWith (by decide)]
  rintro ⟨token, member, inside⟩
  obtain ⟨c, -, letter, inLower⟩ := exists_of_mem_token member inside
  exact (isLowered_of_mem_lowercase letter inLower).2 rfl

/-- The second pass finds the words that are read in the tokens. -/
theorem splitWords_display (plain : 'İ' ∉ name) :
    splitWords (segmenter.display name) = rereadWords (segmenter.segment name) := by
  refine splitWords_joinWith fun token member c inside => ?_
  obtain ⟨a, inName, letter, inLower⟩ := exists_of_mem_token member inside
  have undotted : a ≠ 'İ' := fun same => plain (same ▸ inName)
  exact ⟨isAlphabetic_of_mem_lowercase_of_ne letter undotted inLower,
    (isLowered_of_mem_lowercase letter inLower).1⟩

theorem isBlank_of_mem_token {token : List Char} (member : token ∈ segmenter.segment name) {x : Char}
    (inside : x ∈ token) : isBlank x = false := by
  obtain ⟨c, -, letter, inLower⟩ := exists_of_mem_token member inside
  cases blank : isBlank x with
  | false => rfl
  | true =>
      rcases isAlphabetic_of_mem_lowercase letter inLower with kept | rfl
      · have word := isWord_of_isAlphabetic kept
        rw [isWord_eq_false_of_isBlank blank] at word
        cases word
      · exact absurd blank (by decide)

theorem trim_display : trim (segmenter.display name) = segmenter.display name := by
  apply trim_of_ends
  · intro c start
    rw [display, head?_joinWith fun _ => ne_nil_of_mem_segment] at start
    obtain ⟨token, first, inside⟩ := Option.bind_eq_some_iff.mp start
    exact isBlank_of_mem_token (List.mem_of_head? first) (List.mem_of_head? inside)
  · intro c final
    rw [display, getLast?_joinWith fun _ => ne_nil_of_mem_segment] at final
    obtain ⟨token, last, inside⟩ := Option.bind_eq_some_iff.mp final
    exact isBlank_of_mem_token (List.mem_of_getLast? last) (List.mem_of_getLast? inside)

theorem isPlaceholder_display : isPlaceholder (segmenter.display name) = false := by
  cases held : isPlaceholder (segmenter.display name) with
  | false => rfl
  | true =>
      simp only [isPlaceholder, Bool.and_eq_true, beq_iff_eq] at held
      exact absurd (List.mem_of_head? held.1.2)
        (not_mem_display (by decide) (by decide) (by decide) segmenter name)

theorem renderCallee_display {instruction : InstructionText}
    (callee : instruction[2]? = some (String.ofList (segmenter.display name))) :
    InstructionText.renderCallee segmenter instruction =
      segmenter.display (segmenter.display name) := by
  rw [InstructionText.renderCallee, callee]
  dsimp only
  rw [String.toList_ofList, trim_display, isPlaceholder_display, if_neg (by decide)]

/-- A call to a function that has its shown name as its text shows that name a second time. The name
    comes out as it was exactly when it has no dotted capital I and its tokens are settled. The words
    that settle them are the tokens themselves as long as no capital is left in these. -/
theorem renderCallee_eq_display_iff (segmenter : Segmenter) (name : List Char) :
    (∀ first second rest, InstructionText.renderCallee segmenter
        (first :: second :: String.ofList (segmenter.display name) :: rest) =
      segmenter.display (segmenter.display name)) ∧
    (segmenter.display (segmenter.display name) = segmenter.display name ↔
      'İ' ∉ name ∧ Settled segmenter (segmenter.segment name)) ∧
    ((∀ token ∈ segmenter.segment name, ∀ c ∈ token, isUppercase c = false) →
      rereadWords (segmenter.segment name) = segmenter.segment name) := by
  refine ⟨fun first second rest => renderCallee_display rfl, ?_,
    rereadWords_of_small fun _ => ne_nil_of_mem_segment⟩
  by_cases dotted : 'İ' ∈ name
  · constructor
    · intro same
      have dot : '\u0307' ∈ segmenter.display name := dot_mem_display_iff.mpr dotted
      rw [← same, dot_mem_display_iff] at dot
      exact absurd dot dottedI_not_mem_display
    · rintro ⟨plain, -⟩
      exact absurd dotted plain
  · have words : splitWords (segmenter.display name) = rereadWords (segmenter.segment name) :=
      splitWords_display dotted
    rw [display_eq_iff, segment, words, ← settled_iff]
    simp [dotted]

/-- The last two letters merge, and what they make is a suffix that the second pass merges again. -/
theorem display_display_ne : Segmenter.plain.display (Segmenter.plain.display "a_e_d".toList) ≠
    Segmenter.plain.display "a_e_d".toList := by
  decide +kernel

end Segmenter

end SymbolCorpus.Identifier
