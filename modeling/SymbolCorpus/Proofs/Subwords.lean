import SymbolCorpus.Identifier.Subword

/-! # Pieces keep the word

The search for a best cut never looks at what it has read in order to cut it: every cut it weighs is
made of the characters read so far. Whatever the scores are, and however they compare, the winner
is the word in pieces.
-/

namespace SymbolCorpus.Identifier

namespace Unigram

variable {Score : Type}

/-- The pieces of a cut put together are the text. -/
def Cut.Covers (cut : Cut Score) (text : List Char) : Prop := cut.reversed.reverse.flatten = text

/-- One cut before each character read, nearest first, covering what stands before that character. -/
def Trails : List (Cut Score) → List Char → Prop
  | [], [] => True
  | cut :: earlier, _ :: back => cut.Covers back.reverse ∧ Trails earlier back
  | _, _ => False

theorem Cut.Covers.extend [Add Score] {cut : Cut Score} {text : List Char} (h : cut.Covers text)
    (piece : List Char) (score : Score) : (cut.extend piece score).Covers (text ++ piece) := by
  unfold Cut.Covers Cut.extend
  rw [List.reverse_cons, List.flatten_append, h, List.flatten_singleton]

theorem covers_of_mem_extensions [Add Score] {model : Unigram Score} {earlier : List (Cut Score)}
    {back piece : List Char} {room : Nat} (trails : Trails earlier back) {cut : Cut Score}
    (h : cut ∈ extensions model earlier back piece room) : cut.Covers (back.reverse ++ piece) := by
  fun_induction extensions model earlier back piece room with
  | case1 before earlier c back piece room longer score known ih =>
      rw [List.reverse_cons, List.append_assoc]
      rcases List.mem_cons.mp h with rfl | further
      · exact trails.1.extend (c :: piece) score
      · exact ih trails.2 further
  | case2 before earlier c back piece room longer unknown ih =>
      rw [List.reverse_cons, List.append_assoc]
      exact ih trails.2 h
  | case3 => cases h

section Order

variable [LT Score] [DecidableLT Score]

theorem mem_of_best? {cuts : List (Cut Score)} {cut : Cut Score} (h : best? cuts = some cut) :
    cut ∈ cuts := by
  induction cuts with
  | nil => cases h
  | cons first longer ih =>
      unfold best? at h
      split at h
      · cases h
        exact List.mem_cons_self
      · next found best =>
          split at h
          · cases h
            exact List.mem_cons_self
          · cases h
            exact List.mem_cons_of_mem first (ih best)

variable [Add Score]

/-- What a search holds to: all of its cuts cover what was read before them. -/
structure Search.Sound (search : Search Score) : Prop where
  current : search.current.Covers search.back.reverse
  earlier : Trails search.earlier search.back

theorem Search.Sound.read {search : Search Score} (sound : search.Sound) (model : Unigram Score)
    (c : Char) : (search.read model c).Sound := by
  have alone := sound.current.extend [c] (model.charScore c)
  have current : (search.read model c).current.Covers (search.back.reverse ++ [c]) := by
    -- Whichever cut wins, it covers the text, so the comparison of the scores does not matter.
    unfold Search.read
    dsimp only
    split
    · exact alone
    · next found best =>
        split
        · exact alone
        · exact covers_of_mem_extensions sound.earlier (mem_of_best? best)
  exact
    { current := by
        have whole : (search.read model c).back.reverse = search.back.reverse ++ [c] :=
          List.reverse_cons
        rw [whole]
        exact current
      earlier := ⟨sound.current, sound.earlier⟩ }

theorem Search.Sound.readAll {search : Search Score} (sound : search.Sound) (model : Unigram Score)
    (text : List Char) :
    (text.foldl (Search.read model) search).current.Covers (search.back.reverse ++ text) := by
  induction text generalizing search with
  | nil =>
      rw [List.append_nil]
      exact sound.current
  | cons c rest ih =>
      have further := ih (sound.read model c)
      have whole : (search.read model c).back.reverse = search.back.reverse ++ [c] :=
        List.reverse_cons
      rw [whole, List.append_assoc] at further
      exact further

variable [OfNat Score 0]

theorem bestCut_covers (model : Unigram Score) (text : List Char) :
    (model.bestCut text).Covers text := by
  have start : (⟨[], ⟨0, []⟩, []⟩ : Search Score).Sound := ⟨rfl, trivial⟩
  exact start.readAll model text

theorem flatten_encode (model : Unigram Score) {word : List Char} (h : word ≠ []) :
    (model.encode word).flatten = wordStart :: word := by
  unfold encode
  rw [if_neg (by simpa using h)]
  exact bestCut_covers model (wordStart :: word)

end Order

end Unigram

/-! ## All words -/

namespace SubwordModel

theorem flatten_encode (model : SubwordModel) {word : List Char} (h : word ≠ []) :
    (model.encode word).flatten = wordStart :: word := by
  cases model with
  | whole => simp [encode, h]
  | unigram model => exact model.flatten_encode h

theorem filter_flatten_encode (model : SubwordModel) {word : List Char} (h : wordStart ∉ word) :
    (model.encode word).flatten.filter (· ≠ wordStart) = word := by
  by_cases empty : word = []
  · subst empty
    cases model with
    | whole => rfl
    | unigram model => rfl
  · rw [model.flatten_encode empty, List.filter_cons_of_neg (by simp), List.filter_eq_self]
    intro c member
    have unlike : c ≠ wordStart := fun same => h (same ▸ member)
    simpa using unlike

/-- The pieces of words without marks are the words, put together. -/
theorem flatten_pieces (model : SubwordModel) {words : List (List Char)}
    (h : ∀ word ∈ words, wordStart ∉ word) : (model.pieces words).flatten = words.flatten := by
  unfold pieces
  rw [List.flatten_filter_not_isEmpty, ← List.filter_flatten]
  induction words with
  | nil => rfl
  | cons word words ih =>
      have first := model.filter_flatten_encode (h word List.mem_cons_self)
      have others := ih fun word later => h word (List.mem_cons_of_mem _ later)
      rw [List.flatMap_cons, List.flatten_append, List.filter_append, first, others,
        List.flatten_cons]

theorem ne_nil_of_mem_pieces {model : SubwordModel} {words : List (List Char)} {piece : List Char}
    (h : piece ∈ model.pieces words) : piece ≠ [] := by
  have nonempty := (List.mem_filter.mp h).2
  rintro rfl
  cases nonempty

theorem not_mem_of_mem_pieces {model : SubwordModel} {words : List (List Char)} {piece : List Char}
    (h : piece ∈ model.pieces words) : wordStart ∉ piece := by
  obtain ⟨encoded, -, rfl⟩ := List.mem_map.mp (List.mem_filter.mp h).1
  intro marked
  have unlike := (List.mem_filter.mp marked).2
  simp at unlike

end SubwordModel

end SymbolCorpus.Identifier
