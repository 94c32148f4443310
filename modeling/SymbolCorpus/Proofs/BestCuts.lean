import Mathlib.Algebra.Order.Group.Int
import Mathlib.Algebra.Order.Monoid.Unbundled.Basic
import Mathlib.Algebra.Ring.Int.Defs
import SymbolCorpus.Proofs.LastGiven
import SymbolCorpus.Proofs.Subwords

/-! # The best cut of a word

A word may be cut in as many ways as there are sets of places in it. The search keeps one cut of every
beginning, and that is enough: the best way to go on does not depend on how a beginning was cut, so
nothing is lost when only the best cut of it is gone on with. This needs an addition that keeps the
order of scores, and nothing else about them. Pieces longer than the longest known one need not be
looked at.
-/

namespace SymbolCorpus.Identifier

namespace Unigram

variable {Score : Type}

/-! ## Segmentations -/

/-- A piece that may stand in a segmentation: a known one, or a single character that is not known. -/
def Allowed (model : Unigram Score) (piece : List Char) : Prop :=
  (∃ score, model.score? piece = some score) ∨ ∃ c, piece = [c] ∧ model.score? piece = none

/-- The score of a piece, that of an unknown character when the piece is not known. -/
def pieceScore (model : Unigram Score) (piece : List Char) : Score :=
  (model.score? piece).getD model.unknown

/-- The sum of the scores of pieces, from the first to the last. -/
def total [Zero Score] [Add Score] (model : Unigram Score) (pieces : List (List Char)) : Score :=
  pieces.foldl (fun sum piece => sum + model.pieceScore piece) 0

/-- A way to cut a text into pieces. -/
structure IsSegmentation (model : Unigram Score) (text : List Char) (pieces : List (List Char)) :
    Prop where
  covers : pieces.flatten = text
  allowed : ∀ piece ∈ pieces, model.Allowed piece

section

variable {model : Unigram Score} {text piece : List Char} {pieces : List (List Char)}

theorem isSegmentation_nil (model : Unigram Score) : model.IsSegmentation [] [] :=
  ⟨rfl, nofun⟩

theorem isSegmentation_concat_iff : model.IsSegmentation text (pieces ++ [piece]) ↔
    ∃ before, model.IsSegmentation before pieces ∧ model.Allowed piece ∧ text = before ++ piece := by
  constructor
  · rintro ⟨covers, allowed⟩
    refine ⟨pieces.flatten, ⟨rfl, fun other member => ?_⟩, allowed piece (by simp), ?_⟩
    · exact allowed other (List.mem_append_left _ member)
    · rw [← covers, List.flatten_append, List.flatten_singleton]
  · rintro ⟨before, segmentation, here, rfl⟩
    refine ⟨?_, fun other member => ?_⟩
    · rw [List.flatten_append, List.flatten_singleton, segmentation.covers]
    · rcases List.mem_append.mp member with earlier | last
      · exact segmentation.allowed other earlier
      · rwa [List.mem_singleton.mp last]

theorem allowed_single (model : Unigram Score) (c : Char) : model.Allowed [c] := by
  cases known : model.score? [c] with
  | some score => exact .inl ⟨score, known⟩
  | none => exact .inr ⟨c, rfl, known⟩

/-- No known piece is empty or longer than the longest. -/
def Measured (model : Unigram Score) : Prop :=
  ∀ piece score, model.score? piece = some score → piece ≠ [] ∧ piece.length ≤ model.longest

theorem Measured.ne_nil (measured : model.Measured)
    (allowed : model.Allowed piece) : piece ≠ [] := by
  rcases allowed with ⟨score, known⟩ | ⟨c, rfl, -⟩
  · exact (measured piece score known).1
  · exact List.cons_ne_nil c []

theorem pieceScore_of_known {score : Score} (h : model.score? piece = some score) :
    model.pieceScore piece = score := by
  rw [pieceScore, h, Option.getD_some]

theorem total_concat [Zero Score] [Add Score] (model : Unigram Score) (pieces : List (List Char))
    (piece : List Char) :
    model.total (pieces ++ [piece]) = model.total pieces + model.pieceScore piece := by
  rw [total, List.foldl_append]
  rfl

end

/-! ## The winner -/

section

variable [LinearOrder Score]

theorem eq_nil_of_best? {cuts : List (Cut Score)} (h : best? cuts = none) : cuts = [] := by
  cases cuts with
  | nil => rfl
  | cons cut longer =>
      unfold best? at h
      split at h
      · cases h
      · split at h <;> cases h

theorem le_of_best? {cuts : List (Cut Score)} {found : Cut Score} (h : best? cuts = some found) :
    ∀ cut ∈ cuts, cut.score ≤ found.score := by
  induction cuts generalizing found with
  | nil => cases h
  | cons first longer ih =>
      rw [List.forall_mem_cons]
      unfold best? at h
      split at h
      · next none =>
          cases h
          rw [eq_nil_of_best? none]
          exact ⟨le_rfl, nofun⟩
      · next best some =>
          split at h
          · next less =>
              cases h
              exact ⟨le_rfl, fun cut member => (ih some cut member).trans less.le⟩
          · next notLess =>
              cases h
              exact ⟨not_lt.mp notLess, ih some⟩

theorem Search.le_read [Add Score] (model : Unigram Score) (search : Search Score) (c : Char) :
    search.current.score + model.pieceScore [c] ≤ (search.read model c).current.score ∧
      ∀ cut ∈ extensions model search.earlier search.back [c] (model.longest - 1),
        cut.score ≤ (search.read model c).current.score := by
  unfold Search.read
  dsimp only
  split
  · next none =>
      rw [eq_nil_of_best? none]
      exact ⟨le_rfl, nofun⟩
  · next found best =>
      split
      · next less => exact ⟨le_rfl, fun cut member => (le_of_best? best cut member).trans less.le⟩
      · next notLess => exact ⟨not_lt.mp notLess, le_of_best? best⟩

end

/-! ## Best cuts -/

section

variable [Zero Score] [Add Score] {model : Unigram Score}

/-- A cut of the text that has the score of its pieces. -/
structure Cut.Sums (cut : Cut Score) (model : Unigram Score) (text : List Char) : Prop where
  segmentation : model.IsSegmentation text cut.reversed.reverse
  score : cut.score = model.total cut.reversed.reverse

theorem Cut.Sums.extend {cut : Cut Score} {text piece : List Char} (h : cut.Sums model text)
    (allowed : model.Allowed piece) :
    (cut.extend piece (model.pieceScore piece)).Sums model (text ++ piece) := by
  unfold Cut.extend
  constructor
  · rw [List.reverse_cons]
    exact isSegmentation_concat_iff.mpr ⟨text, h.segmentation, allowed, rfl⟩
  · rw [List.reverse_cons, total_concat, ← h.score]

end

section Order

variable [LinearOrder Score] [Zero Score] [Add Score] {model : Unigram Score}

/-- A cut of the text than which no other has a greater score. -/
structure Cut.IsBest (cut : Cut Score) (model : Unigram Score) (text : List Char) : Prop where
  sums : cut.Sums model text
  best : ∀ pieces, model.IsSegmentation text pieces → model.total pieces ≤ cut.score

/-- One best cut before each character read, nearest first. -/
def BestBefore (model : Unigram Score) : List (Cut Score) → List Char → Prop
  | [], [] => True
  | cut :: earlier, _ :: back => cut.IsBest model back.reverse ∧ BestBefore model earlier back
  | _, _ => False

/-! ## Cuts that end in a known piece -/

theorem sums_of_mem_extensions {earlier : List (Cut Score)} {back piece : List Char} {room : Nat}
    (before : BestBefore model earlier back) {found : Cut Score}
    (member : found ∈ extensions model earlier back piece room) :
    found.Sums model (back.reverse ++ piece) := by
  fun_induction extensions model earlier back piece room with
  | case1 cut earlier c back piece room longer score known ih =>
      rw [List.reverse_cons, List.append_assoc]
      rcases List.mem_cons.mp member with rfl | further
      · have allowed : model.Allowed (c :: piece) := .inl ⟨score, known⟩
        have extended := before.1.sums.extend allowed
        rw [pieceScore_of_known known] at extended
        exact extended
      · exact ih before.2 further
  | case2 cut earlier c back piece room longer unknown ih =>
      rw [List.reverse_cons, List.append_assoc]
      exact ih before.2 member
  | case3 => cases member

theorem exists_shorter {back front middle : List Char} {c : Char} (nonempty : middle ≠ [])
    (whole : (c :: back).reverse = front ++ middle) :
    ∃ shorter, middle = shorter ++ [c] ∧ back.reverse = front ++ shorter := by
  obtain ⟨shorter, last, rfl⟩ := (List.eq_nil_or_concat middle).resolve_left nonempty
  rw [List.reverse_cons, List.concat_eq_append, ← List.append_assoc] at whole
  obtain ⟨before, same⟩ := List.append_inj' whole rfl
  cases same
  exact ⟨shorter, List.concat_eq_append, before⟩

/-- Every known piece that is not too long ends one of the cuts, behind the best cut of what is before
    it. -/
theorem exists_extension {earlier : List (Cut Score)} {back piece : List Char} {room : Nat}
    (before : BestBefore model earlier back) {front middle : List Char} {score : Score}
    (whole : back.reverse = front ++ middle) (nonempty : middle ≠ [])
    (fits : middle.length ≤ room) (known : model.score? (middle ++ piece) = some score) :
    ∃ cut : Cut Score, cut.IsBest model front ∧
      cut.extend (middle ++ piece) score ∈ extensions model earlier back piece room := by
  fun_induction extensions model earlier back piece room generalizing middle with
  | case1 cut earlier c back piece room longer score' known' ih =>
      obtain ⟨shorter, rfl, previous⟩ := exists_shorter nonempty whole
      by_cases last : shorter = []
      · subst last
        rw [List.append_nil] at previous
        have same : score' = score := Option.some.inj (known'.symm.trans known)
        exact ⟨cut, previous ▸ before.1, by rw [same]; exact List.mem_cons_self⟩
      · rw [List.append_assoc] at known ⊢
        have fits : shorter.length ≤ room := by simpa using fits
        obtain ⟨cut', best, found⟩ := ih before.2 previous last fits known
        exact ⟨cut', best, List.mem_cons_of_mem _ found⟩
  | case2 cut earlier c back piece room longer unknown ih =>
      obtain ⟨shorter, rfl, previous⟩ := exists_shorter nonempty whole
      have further : shorter ≠ [] := by
        rintro rfl
        cases unknown.symm.trans known
      rw [List.append_assoc] at known ⊢
      exact ih before.2 previous further (by simpa using fits) known
  | case3 earlier back piece room ended =>
      have positive := List.length_pos_iff.mpr nonempty
      cases back with
      | nil => exact absurd (List.append_eq_nil_iff.mp whole.symm).2 nonempty
      | cons c back =>
          cases earlier with
          | nil => exact before.elim
          | cons cut earlier =>
              cases room with
              | zero => omega
              | succ room => exact (ended cut earlier c back room rfl rfl rfl).elim

/-! ## The search -/

/-- What a search holds to: its cuts are the best of all that begins what was read. -/
structure Search.Best (model : Unigram Score) (search : Search Score) : Prop where
  current : search.current.IsBest model search.back.reverse
  earlier : BestBefore model search.earlier search.back

theorem Search.Best.sums_read {search : Search Score} (h : search.Best model) (c : Char) :
    (search.read model c).current.Sums model (search.back.reverse ++ [c]) := by
  have alone := h.current.sums.extend (allowed_single model c)
  unfold Search.read
  dsimp only
  split
  · exact alone
  · next found best =>
      split
      · exact alone
      · exact sums_of_mem_extensions h.earlier (mem_of_best? best)

theorem isBest_nil (measured : model.Measured) : (⟨0, []⟩ : Cut Score).IsBest model [] := by
  refine ⟨⟨isSegmentation_nil model, rfl⟩, fun pieces segmentation => ?_⟩
  -- Pieces are not empty, so the empty text is cut into none.
  cases pieces with
  | nil => exact le_rfl
  | cons piece pieces =>
      have empty := List.flatten_eq_nil_iff.mp segmentation.covers piece List.mem_cons_self
      exact absurd empty (measured.ne_nil (segmentation.allowed piece List.mem_cons_self))

variable [AddRightMono Score]

/-- No way to cut what was read with one more character has a greater score than the winner. -/
theorem Search.Best.best_read {search : Search Score} (h : search.Best model)
    (measured : model.Measured) (c : Char) {pieces : List (List Char)}
    (segmentation : model.IsSegmentation (search.back.reverse ++ [c]) pieces) :
    model.total pieces ≤ (search.read model c).current.score := by
  obtain ⟨single, longer⟩ := search.le_read model c
  rcases List.eq_nil_or_concat pieces with rfl | ⟨front, piece, rfl⟩
  · simpa using segmentation.covers
  · rw [List.concat_eq_append] at segmentation ⊢
    obtain ⟨before, earlier, allowed, whole⟩ := isSegmentation_concat_iff.mp segmentation
    rw [← List.reverse_cons] at whole
    obtain ⟨middle, rfl, previous⟩ := exists_shorter (measured.ne_nil allowed) whole
    rw [total_concat]
    by_cases alone : middle = []
    · subst alone
      rw [List.append_nil] at previous
      have bound := h.current.best front (previous ▸ earlier)
      exact (add_le_add_left bound _).trans single
    · have known : ∃ score, model.score? (middle ++ [c]) = some score := by
        rcases allowed with known | ⟨d, same, -⟩
        · exact known
        · exact absurd (List.append_eq_singleton_iff.mp same) (by simp [alone])
      obtain ⟨score, known⟩ := known
      have fits : middle.length ≤ model.longest - 1 := by
        have short := (measured _ score known).2
        rw [List.length_append, List.length_singleton] at short
        omega
      obtain ⟨cut, best, member⟩ := exists_extension h.earlier previous alone fits known
      rw [pieceScore_of_known known]
      exact (add_le_add_left (best.best front earlier) score).trans (longer _ member)

theorem Search.Best.read {search : Search Score} (h : search.Best model)
    (measured : model.Measured) (c : Char) : (search.read model c).Best model := by
  have whole : (search.read model c).back.reverse = search.back.reverse ++ [c] := List.reverse_cons
  refine ⟨?_, h.current, h.earlier⟩
  rw [whole]
  exact ⟨h.sums_read c, fun pieces => h.best_read measured c⟩

theorem Search.Best.readAll {search : Search Score} (h : search.Best model)
    (measured : model.Measured) (text : List Char) :
    (text.foldl (Search.read model) search).current.IsBest model (search.back.reverse ++ text) := by
  induction text generalizing search with
  | nil =>
      rw [List.append_nil]
      exact h.current
  | cons c rest ih =>
      have further := ih (h.read measured c)
      have whole : (search.read model c).back.reverse = search.back.reverse ++ [c] :=
        List.reverse_cons
      rw [whole, List.append_assoc] at further
      exact further

theorem bestCut_isBest (measured : model.Measured) (text : List Char) :
    (model.bestCut text).IsBest model text := by
  have start : (⟨[], ⟨0, []⟩, []⟩ : Search Score).Best model := ⟨isBest_nil measured, trivial⟩
  exact start.readAll measured text

/-- A word that is not empty is cut into known pieces and single characters that are not known, and no
    other such cut of it, with the mark of its start, has a greater total score. -/
theorem encode_isBest (measured : model.Measured) {word : List Char} (h : word ≠ []) :
    model.IsSegmentation (wordStart :: word) (model.encode word) ∧
      ∀ pieces, model.IsSegmentation (wordStart :: word) pieces →
        model.total pieces ≤ model.total (model.encode word) := by
  obtain ⟨⟨segmentation, score⟩, best⟩ := bestCut_isBest measured (wordStart :: word)
  have pieces : model.encode word = (model.bestCut (wordStart :: word)).reversed.reverse := by
    rw [encode, if_neg (by simpa using h)]
  rw [pieces, ← score]
  exact ⟨segmentation, best⟩

end Order

/-! ## Vocabularies -/

/-- The score that a vocabulary has for a piece of text, the last one when it has several. -/
def given? (pieces : List (List Char × Score)) (piece : List Char) : Option Score :=
  if isTextPiece piece then lastGiven? piece pieces else none

/-- A way to cut a text into pieces of a vocabulary and single characters that are none. -/
structure IsCut (pieces : List (List Char × Score)) (text : List Char) (cut : List (List Char)) :
    Prop where
  covers : cut.flatten = text
  allowed : ∀ piece ∈ cut, (∃ score, given? pieces piece = some score) ∨
    ∃ c, piece = [c] ∧ given? pieces piece = none

/-- The sum of the scores of what a text is cut into, with one score for all that a vocabulary does not
    have. -/
def worth [Zero Score] [Add Score] (pieces : List (List Char × Score)) (unknown : Score)
    (cut : List (List Char)) : Score :=
  cut.foldl (fun sum piece => sum + (given? pieces piece).getD unknown) 0

section

variable [LinearOrder Score]

theorem foldl_least_eq (bound : Score) (scores : List Score) :
    scores.foldl Unigram.least bound = scores.foldl min bound := by
  have same : (Unigram.least : Score → Score → Score) = min := by
    funext bound score
    rw [Unigram.least, min_comm, min_def_lt]
  rw [same]

variable [Zero Score]

/-- The least of zero and the scores of a vocabulary. -/
structure IsLowest (pieces : List (List Char × Score)) (lowest : Score) : Prop where
  attained : lowest = 0 ∨ ∃ piece, given? pieces piece = some lowest
  nonpositive : lowest ≤ 0
  least : ∀ piece score, given? pieces piece = some score → lowest ≤ score

variable [Add Score] (penalty : Score) (pieces : List (List Char × Score))

theorem score?_ofPieces (piece : List Char) :
    (ofPieces penalty pieces).score? piece = given? pieces piece := by
  rw [given?, ← lastGiven?_filter]
  simp [score?, ofPieces, Std.HashMap.ofList_eq_insertMany_empty, getElem?_insertMany_hash]

theorem exists_isLowest : ∃ lowest, IsLowest pieces lowest ∧
    (ofPieces penalty pieces).unknown = lowest + penalty := by
  have known (piece : List Char) (score : Score) :
      (piece, score) ∈ (ofPieces penalty pieces).scores.toList ↔ given? pieces piece = some score := by
    rw [Std.HashMap.mem_toList_iff_getElem?_eq_some, ← score?_ofPieces penalty, score?]
  let scores := (ofPieces penalty pieces).scores.toList.map (·.2)
  have minimum : (0 :: scores).min? = some (scores.foldl min 0) := List.min?_cons'
  obtain ⟨attained, least⟩ := List.min?_eq_some_iff.mp minimum
  refine ⟨scores.foldl min 0, ⟨?_, least 0 List.mem_cons_self, fun piece score given => ?_⟩, ?_⟩
  · rcases List.mem_cons.mp attained with zero | some
    · exact .inl zero
    · obtain ⟨⟨piece, score⟩, member, same⟩ := List.mem_map.mp some
      exact .inr ⟨piece, same ▸ (known piece score).mp member⟩
  · have member := (known piece score).mpr given
    exact least score (List.mem_cons_of_mem 0 (List.mem_map.mpr ⟨_, member, rfl⟩))
  · rw [← foldl_least_eq]
    rfl

theorem isSegmentation_ofPieces {text : List Char} {cut : List (List Char)} :
    (ofPieces penalty pieces).IsSegmentation text cut ↔ IsCut pieces text cut := by
  have allowed (piece : List Char) : (ofPieces penalty pieces).Allowed piece ↔
      (∃ score, given? pieces piece = some score) ∨ ∃ c, piece = [c] ∧ given? pieces piece = none := by
    rw [Allowed, score?_ofPieces]
  constructor
  · intro segmentation
    refine ⟨segmentation.covers, fun piece member => ?_⟩
    exact (allowed piece).mp (segmentation.allowed piece member)
  · intro isCut
    refine ⟨isCut.covers, fun piece member => ?_⟩
    exact (allowed piece).mpr (isCut.allowed piece member)

theorem total_ofPieces (cut : List (List Char)) :
    (ofPieces penalty pieces).total cut = worth pieces (ofPieces penalty pieces).unknown cut := by
  simp only [total, worth, pieceScore, score?_ofPieces]

theorem le_foldl_max {lengths : List Nat} {length : Nat} (h : length ∈ lengths) :
    length ≤ lengths.foldl max 0 :=
  (List.max?_eq_some_iff.mp List.max?_cons').2 length (List.mem_cons_of_mem 0 h)

theorem measured_ofPieces : (ofPieces penalty pieces).Measured := by
  intro piece score known
  rw [score?_ofPieces, given?] at known
  split at known
  · next text =>
      have member : (piece, score) ∈ pieces.filter (isTextPiece ·.1) :=
        List.mem_filter.mpr ⟨mem_of_lastGiven? known, text⟩
      have nonempty : piece ≠ [] := by
        rintro rfl
        cases text
      have short : piece.length ≤
          ((pieces.filter (isTextPiece ·.1)).map (·.1.length)).foldl max 0 :=
        le_foldl_max (List.mem_map.mpr ⟨_, member, rfl⟩)
      exact ⟨nonempty, short.trans (le_max_right _ _)⟩
  · cases known

/-- With any vocabulary, a word that is not empty is cut into pieces of the vocabulary and single
    characters that are none, and no other such cut of it, with the mark of its start, has a greater
    total score, where every unknown character scores the penalty below the least score. -/
theorem encode_ofPieces [AddRightMono Score] {word : List Char} (h : word ≠ []) :
    ∃ lowest, IsLowest pieces lowest ∧
      IsCut pieces (wordStart :: word) ((ofPieces penalty pieces).encode word) ∧
      ∀ others, IsCut pieces (wordStart :: word) others →
        worth pieces (lowest + penalty) others ≤
          worth pieces (lowest + penalty) ((ofPieces penalty pieces).encode word) := by
  obtain ⟨segmentation, best⟩ := encode_isBest (measured_ofPieces penalty pieces) h
  obtain ⟨lowest, isLowest, unknown⟩ := exists_isLowest penalty pieces
  refine ⟨lowest, isLowest, (isSegmentation_ofPieces penalty pieces).mp segmentation, ?_⟩
  intro others isCut
  have bound := best others ((isSegmentation_ofPieces penalty pieces).mpr isCut)
  rwa [total_ofPieces, total_ofPieces, unknown] at bound

end

/-- A vocabulary in which the best cut of a word does not begin with the best cut of its beginning. -/
def lockPieces : List (List Char × ℤ) :=
  [("▁un".toList, -2), ("▁u".toList, -3), ("nlock".toList, -2), ("lo".toList, -4), ("ck".toList, -4)]

theorem eq_of_isLowest_lockPieces {lowest : ℤ} (h : IsLowest lockPieces lowest) : lowest = -4 := by
  have bound := h.least "lo".toList (-4) (by decide)
  rcases h.attained with zero | ⟨piece, given⟩
  · omega
  · unfold given? at given
    split at given
    · have scores : ∀ entry ∈ lockPieces, -4 ≤ entry.2 := by decide
      exact le_antisymm bound (scores _ (mem_of_lastGiven? given))
    · cases given

theorem encode_unlock :
    (ofPieces (-10) lockPieces).encode "unlock".toList = ["▁u".toList, "nlock".toList] := by
  have known := score?_ofPieces (-10) lockPieces
  have longest : (ofPieces (-10) lockPieces).longest = 5 := by decide
  obtain ⟨lowest, isLowest, unknown⟩ := exists_isLowest (-10) lockPieces
  rw [eq_of_isLowest_lockPieces isLowest] at unknown
  -- The table of scores does not reduce, so nothing but these three facts may be used of the model.
  generalize ofPieces (-10) lockPieces = model at *
  simp [encode, bestCut, Search.read, extensions, charScore, best?, Cut.extend, known, longest, unknown,
    wordStart, given?, isTextPiece, controlPieces, lastGiven?, lockPieces]

/-- The word is not cut behind its best beginning. -/
theorem encode_lockPieces :
    "unlock".toList ≠ [] ∧ IsLowest lockPieces (-4) ∧
    (ofPieces (-10) lockPieces).encode "unlock".toList = ["▁u".toList, "nlock".toList] ∧
    worth lockPieces (-14) ["▁u".toList, "nlock".toList] = -5 ∧
    ∀ others, IsCut lockPieces "▁unlock".toList others → worth lockPieces (-14) others ≤ -5 := by
  have nonempty : "unlock".toList ≠ [] := by decide
  obtain ⟨lowest, isLowest, -, best⟩ := encode_ofPieces (-10) lockPieces nonempty
  obtain rfl := eq_of_isLowest_lockPieces isLowest
  have sum : worth lockPieces (-14) ["▁u".toList, "nlock".toList] = -5 := by decide
  refine ⟨nonempty, isLowest, encode_unlock, sum, fun others isCut => ?_⟩
  have bound := best others isCut
  rw [encode_unlock] at bound
  exact bound.trans sum.le

end Unigram

end SymbolCorpus.Identifier
