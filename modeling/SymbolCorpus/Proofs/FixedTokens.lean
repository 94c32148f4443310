import SymbolCorpus.Proofs.InStep
import SymbolCorpus.Proofs.Rendering

/-! # Tokens that are tokenized to themselves

Placeholders, zeros, operators, punctuation, keywords and built-in types are shown as they are, and
with spaces between them none becomes a part of another. The rules for words stop at a space. Of the
rules that look further, such as those for comments and literals, none begins with such a token and a
space. So a text that was abstracted already is left as it is.
-/

namespace SymbolCorpus.PseudoCode

open Text Identifier

/-- A token that stands for itself. -/
inductive IsFixed : List Char → Prop where
  | placeholder {text : List Char} : text ∈ placeholders → IsFixed text
  | zero : IsFixed ['0']
  | compound {text : List Char} : text ∈ compoundOperators → IsFixed text
  | operator {c : Char} : isOperator c = true → IsFixed [c]
  | punctuation {c : Char} : isPunctuation c = true → IsFixed [c]
  | keyword {word : String} : word ∈ keywords → IsFixed word.toList
  | type {word : String} : word ∈ builtinTypes → IsFixed word.toList

/-- What stands behind a token: nothing, or a space and more. -/
def IsApart (rest : List Char) : Prop := rest = [] ∨ ∃ more, rest = ' ' :: more

theorem isGap_space : isGap ' ' = true := by decide

theorem firstMatch_earlyRules_apart {rest : List Char} (apart : IsApart rest) (dialect : Dialect)
    (token : List Char) :
    firstMatch (earlyRules dialect) (token ++ rest) = firstMatch (earlyRules dialect) token := by
  rcases apart with rfl | ⟨more, rfl⟩
  · rw [List.append_nil]
  · exact firstMatch_congr fun rule member =>
      (earlyRules_stop isGap_space dialect rule member).append token more

theorem firstMatch_of_early {dialect : Dialect} {token rest : List Char} {found : Category × Nat}
    (h : firstMatch (earlyRules dialect) token = some found) (apart : IsApart rest) :
    firstMatch dialect.rules (token ++ rest) = some found := by
  rw [dialect.rules_eq, firstMatch_append, firstMatch_earlyRules_apart apart, h, Option.some_or]

/-! ## Placeholders and operators of more than one character -/

theorem firstMatch_of_leading {token : List Char} {found : Category × Nat}
    (h : firstMatch leadingRules token = some found) (dialect : Dialect) :
    firstMatch (earlyRules dialect) token = some found := by
  rw [earlyRules, List.append_assoc, firstMatch_append, h, Option.some_or]

theorem firstMatch_placeholder : ∀ text ∈ placeholders,
    firstMatch leadingRules text = some (.placeholder, text.length) := by
  decide

theorem firstMatch_compoundOperator : ∀ text ∈ compoundOperators,
    firstMatch leadingRules text = some (.operator, text.length) := by
  decide

/-! ## Words -/

theorem firstOf_idle {texts : List (List Char)}
    (outside : ∀ text ∈ texts, text.head?.any isWord = false) {c : Char}
    (word : isWord c = true) (rest : List Char) : firstOf texts (c :: rest) = 0 := by
  rcases firstOf_cases texts (c :: rest) with ⟨found, member, taken⟩ | none
  · by_contra some
    obtain ⟨length, same⟩ := Nat.exists_eq_succ_of_ne_zero some
    rw [same, List.take_succ_cons] at taken
    have first := outside found member
    rw [← taken, List.head?_cons, Option.any_some, word] at first
    cases first
  · exact none

theorem firstMatch_leadingRules_word {c : Char} (word : isWord c = true) (rest : List Char) :
    firstMatch leadingRules (c :: rest) = none := by
  refine firstMatch_of_idle ?_
  simp only [leadingRules, List.forall_mem_cons, List.not_mem_nil, false_imp_iff, implies_true,
    and_true]
  exact ⟨firstOf_idle (by decide) word rest, firstOf_idle (by decide) word rest,
    firstOf_idle (by decide) word rest⟩

/-- The words that both dialects give a meaning to. -/
def fixedWords : List String := keywords ++ builtinTypes

/-- The tests by which one dialect or the other knows words of its own. -/
def ownTests : List (List Char → Bool) :=
  [isSizedType, isOpaqueType, isSubroutine, isStemWith "label_".toList fun _ => true,
    isStemWith "var_".toList fun _ => true, isStemWith "data_".toList fun _ => true, isRegister,
    isWidthType]

/-- What is found by going through the words: each is a name and one run of word characters, and no
    dialect knows it for a word of its own. -/
theorem fixedWords_checked : ∀ word ∈ fixedWords,
    isName word.toList = true ∧ wordRun word.toList = word.toList ∧
      (∀ test ∈ ownTests, test word.toList = false) ∧ conditionLength word.toList = 0 := by
  decide +kernel

theorem firstMatch_dialectRules_idle {text : List Char}
    (rejected : ∀ test ∈ ownTests, test (wordRun text) = false) (condition : conditionLength text = 0)
    (dialect : Dialect) : firstMatch (dialectRules dialect) text = none := by
  have idle : ∀ test ∈ ownTests, wholeWord test text = 0 := fun test member =>
    wholeWord_of_rejected rfl (rejected test member)
  simp only [ownTests, List.forall_mem_cons] at idle
  obtain ⟨sized, unknown, subroutine, label, var, data, register, width, -⟩ := idle
  refine firstMatch_of_idle ?_
  cases dialect <;>
    simp only [dialectRules, List.forall_mem_cons, List.not_mem_nil, false_imp_iff, implies_true,
      and_true]
  case decompiler => exact ⟨sized, unknown, subroutine⟩
  case analysisTool => exact ⟨subroutine, condition, label, var, data, register, width⟩

theorem firstMatch_dialectRules_word {word : String} (member : word ∈ fixedWords) (dialect : Dialect) :
    firstMatch (dialectRules dialect) word.toList = none := by
  obtain ⟨-, run, rejected, condition⟩ := fixedWords_checked word member
  exact firstMatch_dialectRules_idle (by rwa [run]) condition dialect

theorem ne_nil_of_isName {word : List Char} (h : isName word = true) : word ≠ [] := by
  rintro rfl
  cases h

theorem isOneOf_of_mem {word : String} {words : List String} (member : word ∈ words) :
    isOneOf words word.toList = true := by
  rw [isOneOf, List.any_eq_true]
  exact ⟨word, member, beq_self_eq_true word.toList⟩

theorem firstMatch_earlyRules_word {word : String} (member : word ∈ fixedWords) (dialect : Dialect) :
    ∃ category, (category = .keyword ∨ category = .keywordType) ∧
      firstMatch (earlyRules dialect) word.toList = some (category, word.toList.length) := by
  obtain ⟨named, run, -⟩ := fixedWords_checked word member
  have nonempty := ne_nil_of_isName named
  have positive : 0 < word.toList.length := List.length_pos_iff.mpr nonempty
  have leading : firstMatch leadingRules word.toList = none := by
    obtain ⟨c, rest, start⟩ := List.exists_cons_of_ne_nil nonempty
    rw [start] at run ⊢
    exact firstMatch_leadingRules_word (List.takeWhile_eq_self_iff.mp run c List.mem_cons_self) rest
  rw [earlyRules, firstMatch_append, firstMatch_append, leading,
    firstMatch_dialectRules_word member dialect, Option.none_or, Option.none_or]
  cases isKeyword : isOneOf keywords word.toList with
  | true =>
      refine ⟨.keyword, .inl rfl, ?_⟩
      simp only [keywordRules, firstMatch, wholeWord_of_accepted run isKeyword, positive, if_true]
  | false =>
      have isType : isOneOf builtinTypes word.toList = true := by
        rcases List.mem_append.mp member with keyword | type
        · rw [isOneOf_of_mem keyword] at isKeyword
          cases isKeyword
        · exact isOneOf_of_mem type
      refine ⟨.keywordType, .inr rfl, ?_⟩
      simp only [keywordRules, firstMatch, wholeWord_of_rejected run isKeyword,
        wholeWord_of_accepted run isType, positive, if_true, Nat.lt_irrefl, if_false]

/-! ## Texts without a name at their start -/

theorem isName_wordRun_of_unnamed {text : List Char} (unnamed : nameLength text = 0) :
    isName (wordRun text) = false := by
  by_contra named
  rw [Bool.not_eq_false] at named
  rw [nameLength, wholeWord_of_accepted rfl named, List.length_eq_zero_iff] at unnamed
  exact ne_nil_of_isName named unnamed

theorem isName_of_stem {stem word rest : List Char} (named : isName stem = true)
    (stemmed : afterStem? stem word = some rest) : isName word = true := by
  obtain rfl := List.isPrefixOf?_eq_some_iff_append_eq.mp stemmed
  cases stem with
  | nil => cases named
  | cons c stem => exact named

theorem isName_of_isStemWith {stem word : List Char} {test : Char → Bool} (named : isName stem = true)
    (h : isStemWith stem test word = true) : isName word = true := by
  unfold isStemWith at h
  split at h
  · next stemmed => exact isName_of_stem named stemmed
  · cases h

theorem isName_of_isStemWithDigits {stem word : List Char} (named : isName stem = true)
    (h : isStemWithDigits stem word = true) : isName word = true := by
  unfold isStemWithDigits at h
  split at h
  · next stemmed => exact isName_of_stem named stemmed
  · cases h

theorem isName_of_isSizedType {word : List Char} (h : isSizedType word = true) :
    isName word = true := by
  have stem : isName (dropUnderscore word) = true := by
    simp only [isSizedType, Bool.or_eq_true, beq_iff_eq, List.any_eq_true] at h
    rcases h with (⟨size, member, digits⟩ | same) | same
    · refine isName_of_isStemWithDigits ?_ digits
      clear digits
      revert size
      decide
    · rw [same]
      decide
    · rw [same]
      decide
  unfold dropUnderscore at stem
  split at stem
  · rfl
  · exact stem

theorem isName_of_isOpaqueType {word : List Char} (h : isOpaqueType word = true) :
    isName word = true := by
  simp only [isOpaqueType, List.any_cons, List.any_nil, Bool.or_eq_true, beq_iff_eq, Bool.or_false] at h
  rcases h with same | same | same | same | same <;> rw [← same] <;> decide

theorem isName_of_isRegister {word : List Char} (h : isRegister word = true) : isName word = true := by
  unfold isRegister at h
  split at h
  · simp only [Bool.and_eq_true, Bool.or_eq_true, beq_iff_eq] at h
    rcases h.1.1 with rfl | rfl <;> rfl
  · cases h

theorem isName_of_isWidthType {word : List Char} (h : isWidthType word = true) :
    isName word = true := by
  unfold isWidthType at h
  dsimp only at h
  split at h
  · next stemmed =>
      split at stemmed
      · rfl
      · exact isName_of_stem (by decide) stemmed
  · cases h

theorem isName_of_ownTest : ∀ test ∈ ownTests, ∀ word, test word = true → isName word = true := by
  simp only [ownTests, List.forall_mem_cons, List.not_mem_nil, false_imp_iff, implies_true, and_true]
  exact ⟨fun _ => isName_of_isSizedType, fun _ => isName_of_isOpaqueType,
    fun _ => isName_of_isStemWith (by decide), fun _ => isName_of_isStemWith (by decide),
    fun _ => isName_of_isStemWith (by decide), fun _ => isName_of_isStemWith (by decide),
    fun _ => isName_of_isRegister, fun _ => isName_of_isWidthType⟩

theorem conditionLength_of_unnamed {text : List Char} (unnamed : nameLength text = 0) :
    conditionLength text = 0 := by
  by_contra some
  obtain ⟨rest, rfl, -⟩ := take_condition (Nat.pos_of_ne_zero some)
  have named : isName (wordRun ("cond:".toList ++ rest)) = true := rfl
  rw [isName_wordRun_of_unnamed unnamed] at named
  cases named

theorem firstMatch_dialectRules_unnamed {text : List Char} (unnamed : nameLength text = 0)
    (dialect : Dialect) : firstMatch (dialectRules dialect) text = none := by
  refine firstMatch_dialectRules_idle (fun test member => ?_) (conditionLength_of_unnamed unnamed) dialect
  by_contra accepted
  have named := isName_of_ownTest test member _ (Bool.not_eq_false _ ▸ accepted)
  rw [isName_wordRun_of_unnamed unnamed] at named
  cases named

theorem firstMatch_keywordRules_unnamed {text : List Char} (unnamed : nameLength text = 0) :
    firstMatch keywordRules text = none := by
  have rejected {words : List String} (fixed : ∀ word ∈ words, word ∈ fixedWords) :
      isOneOf words (wordRun text) = false := by
    by_contra accepted
    rw [Bool.not_eq_false, isOneOf, List.any_eq_true] at accepted
    obtain ⟨word, member, same⟩ := accepted
    rw [beq_iff_eq] at same
    have named := (fixedWords_checked word (fixed word member)).1
    rw [same, isName_wordRun_of_unnamed unnamed] at named
    cases named
  refine firstMatch_of_idle ?_
  simp only [keywordRules, List.forall_mem_cons, List.not_mem_nil, false_imp_iff, implies_true,
    and_true]
  exact ⟨wholeWord_of_rejected rfl (rejected fun word => List.mem_append_left _),
    wholeWord_of_rejected rfl (rejected fun word => List.mem_append_right _)⟩

/-- Of a text without a name at its start, the rules before those for calls see only placeholders and
    operators. -/
theorem firstMatch_earlyRules_unnamed {text : List Char} (unnamed : nameLength text = 0)
    (leading : firstMatch leadingRules text = none) (dialect : Dialect) :
    firstMatch (earlyRules dialect) text = none := by
  rw [earlyRules, firstMatch_append, firstMatch_append, leading,
    firstMatch_dialectRules_unnamed unnamed, firstMatch_keywordRules_unnamed unnamed]
  rfl

/-! ## Single characters -/

/-- The characters that are tokens by themselves. -/
def marks : List (Char × Category) :=
  ('0', .number) :: "~!%^&*+=|?:<>/-".toList.map (·, .operator) ++
    "()[],.;\x7b\x7d".toList.map (·, .punctuation)

/-- What is found by going through the marks: none begins a name, white space, a directive or a
    literal, none is taken by a rule for longer operators, and each is taken by its own. -/
theorem marks_checked : ∀ mark ∈ marks,
    nameLength [mark.1] = 0 ∧ isBlank mark.1 = false ∧
      mark.1 ∉ ['\\', '#', '"', '\'', 'L', 'u', 'U'] ∧ firstMatch leadingRules [mark.1] = none ∧
      firstMatch commonRules [mark.1] = some (mark.2, 1) := by
  decide +kernel

theorem openedBy_plain {c quote : Char} (other : c ≠ quote) (unmarked : c ∉ ['L', 'u', 'U'])
    (rest : List Char) : openedBy quote (c :: rest) = none := by
  simp only [List.mem_cons, List.not_mem_nil, or_false, not_or] at unmarked
  simp [openedBy, encodingMarks, List.isPrefixOf?, Ne.symm other, Ne.symm unmarked.1,
    Ne.symm unmarked.2.1, Ne.symm unmarked.2.2]

section Mark

variable {c : Char} {category : Category} (h : (c, category) ∈ marks)
include h

theorem firstMatch_earlyRules_mark (dialect : Dialect) : firstMatch (earlyRules dialect) [c] = none := by
  obtain ⟨unnamed, -, -, leading, -⟩ := marks_checked (c, category) h
  exact firstMatch_earlyRules_unnamed unnamed leading dialect

theorem openedBy_mark {quote : Char} (other : c ≠ quote) (rest : List Char) :
    openedBy quote (c :: rest) = none := by
  obtain ⟨-, -, plain, -⟩ := marks_checked (c, category) h
  simp only [List.mem_cons, List.not_mem_nil, or_false, not_or] at plain
  exact openedBy_plain other (by simp [plain]) rest

theorem commonRules_mark (more : List Char) :
    ∀ rule ∈ commonRules, rule.length (c :: ' ' :: more) = rule.length [c] := by
  have numbers := numberRules_stop isGap_space
  have name := stopsAt_name isGap_space
  obtain ⟨-, visible, plain, -⟩ := marks_checked (c, category) h
  simp only [List.mem_cons, List.not_mem_nil, or_false, not_or] at plain
  obtain ⟨backslash, number, double, single, -⟩ := plain
  have blank (rest : List Char) : blankLength (c :: rest) = 0 := by
    simp [blankLength, backslash, visible]
  have line : lineCommentLength (c :: ' ' :: more) = lineCommentLength [c] := by
    simp [lineCommentLength]
  have block : blockCommentLength (c :: ' ' :: more) = blockCommentLength [c] := by
    simp [blockCommentLength]
  have directive (rest : List Char) : directiveLength (c :: rest) = 0 := by
    simp [directiveLength, number]
  have closed {quote : Char} (other : c ≠ quote) (rest : List Char) :
      closedLength quote (c :: rest) = 0 := by
    rw [closedLength, openedBy_mark h other]
  have openString (rest : List Char) : openStringLength (c :: rest) = 0 := by
    rw [openStringLength, openedBy_mark h double]
  simp only [commonRules, List.forall_mem_cons, List.not_mem_nil, false_imp_iff, implies_true,
    and_true, reduceCtorEq, true_imp_iff, true_and] at numbers ⊢
  obtain ⟨scientific, float, hexadecimal, binary, octal, decimal⟩ := numbers
  exact ⟨by rw [blank, blank], line, block, by rw [directive, directive],
    by rw [closed double, closed double], by rw [openString, openString],
    by rw [closed single, closed single], scientific.append [c] more, float.append [c] more,
    hexadecimal.append [c] more, binary.append [c] more, octal.append [c] more,
    decimal.append [c] more, rfl, rfl, name.append [c] more, rfl⟩

theorem firstMatch_mark (dialect : Dialect) {rest : List Char} (apart : IsApart rest) :
    firstMatch dialect.rules ([c] ++ rest) = some (category, 1) := by
  obtain ⟨alone, -, -, -, found⟩ := marks_checked (c, category) h
  have unnamed : nameLength ([c] ++ rest) = 0 := by
    rcases apart with rfl | ⟨more, rfl⟩
    · exact alone
    · rw [(stopsAt_name isGap_space).append, alone]
  rw [dialect.rules_eq, firstMatch_append, firstMatch_earlyRules_apart apart,
    firstMatch_earlyRules_mark h, Option.none_or, firstMatch]
  simp only [callRule_idle unnamed, Nat.lt_irrefl, if_false]
  rw [← found]
  rcases apart with rfl | ⟨more, rfl⟩
  · rfl
  · exact firstMatch_congr (commonRules_mark h more)

end Mark

/-! ## Tokens -/

/-- A token is a lexeme of its own wherever it stands apart, and is shown as it is. -/
structure Stays (options : TokenOptions) (category : Category) (token : List Char) : Prop where
  found : ∀ {rest}, IsApart rest →
    firstMatch options.dialect.rules (token ++ rest) = some (category, token.length)
  other : category ≠ .string
  shown : ∀ segmenter defined,
    renderLexeme segmenter options defined ⟨category, token, 0⟩ = .ok (some token, defined)

theorem Stays.of_visible {options : TokenOptions} {category : Category} {token : List Char}
    (found : ∀ {rest}, IsApart rest →
      firstMatch options.dialect.rules (token ++ rest) = some (category, token.length))
    (kind : category ∈ [Category.keyword, .keywordType, .operator, .punctuation])
    (visible : token.any isBlank = false) : Stays options category token where
  found := found
  other := by
    rintro rfl
    simp at kind
  shown segmenter defined := by
    have noBlank : ∀ c ∈ token, isBlank c = false := by simpa using visible
    have trimmed : trim token = token :=
      trim_of_ends (fun c first => noBlank c (List.mem_of_head? first))
        fun c last => noBlank c (List.mem_of_getLast? last)
    simp only [List.mem_cons, List.not_mem_nil, or_false] at kind
    rcases kind with rfl | rfl | rfl | rfl <;> simp [renderLexeme, trimmed]

theorem stays_word {word : String} (member : word ∈ fixedWords) (options : TokenOptions) :
    ∃ category, Stays options category word.toList := by
  obtain ⟨category, kind, found⟩ := firstMatch_earlyRules_word member options.dialect
  obtain ⟨-, run, -⟩ := fixedWords_checked word member
  refine ⟨category, .of_visible (firstMatch_of_early found) ?_ ?_⟩
  · rcases kind with rfl | rfl <;> decide
  · rw [List.any_eq_false]
    intro c inWord blank
    have isWord := List.takeWhile_eq_self_iff.mp run c inWord
    rw [isWord_eq_false_of_isBlank blank] at isWord
    cases isWord

theorem IsFixed.exists_stays {token : List Char} (h : IsFixed token) (options : TokenOptions) :
    ∃ category, Stays options category token := by
  have mark {c : Char} {category : Category} (member : (c, category) ∈ marks)
      (kind : category ∈ [Category.keyword, .keywordType, .operator, .punctuation]) :
      Stays options category [c] := by
    refine .of_visible (firstMatch_mark member options.dialect) kind ?_
    simpa using (marks_checked (c, category) member).2.1
  cases h with
  | placeholder member =>
      have found := firstMatch_of_leading (firstMatch_placeholder token member) options.dialect
      exact ⟨.placeholder, firstMatch_of_early found, by decide, fun _ _ => rfl⟩
  | zero =>
      have member : ('0', .number) ∈ marks := List.mem_cons_self
      exact ⟨.number, firstMatch_mark member options.dialect, by decide, fun _ _ => rfl⟩
  | compound member =>
      have found := firstMatch_of_leading (firstMatch_compoundOperator token member) options.dialect
      have visible : ∀ text ∈ compoundOperators, text.any isBlank = false := by decide
      exact ⟨.operator, .of_visible (firstMatch_of_early found) (by decide) (visible token member)⟩
  | @operator c accepted =>
      exact ⟨.operator, mark (by simpa [marks, isOperator] using accepted) (by decide)⟩
  | @punctuation c accepted =>
      exact ⟨.punctuation, mark (by simpa [marks, isPunctuation] using accepted) (by decide)⟩
  | keyword member => exact stays_word (List.mem_append_left _ member) options
  | type member => exact stays_word (List.mem_append_right _ member) options

section Tokens

variable {segmenter : Segmenter} {options : TokenOptions} {defined : Option (List Char)}

theorem tokensFrom_space (rest : List Char) :
    tokensFrom segmenter options defined (' ' :: rest) = tokensFrom segmenter options defined rest := by
  have trimmed : trimStart (' ' :: rest) = trimStart rest := List.dropWhile_cons_of_pos (by decide)
  rw [← tokensFrom_trimStart, trimmed, tokensFrom_trimStart]

theorem tokensFrom_fixed {token rest : List Char} (h : IsFixed token) (apart : IsApart rest) :
    tokensFrom segmenter options defined (token ++ rest) =
      (token :: ·) <$> tokensFrom segmenter options defined rest := by
  obtain ⟨category, stays⟩ := h.exists_stays options
  have nonempty := firstMatch_pos (stays.found apart)
  rw [tokensFrom_step (stays.found apart) stays.other (stays.shown segmenter defined)]
  cases token with
  | nil => simp at nonempty
  | cons c token => rfl

end Tokens

/-- Tokens that stand for themselves come back from the text that they make with spaces. -/
theorem tokenize_joinWith_space (segmenter : Segmenter) (options : TokenOptions)
    {tokens : List (List Char)} (fixed : ∀ token ∈ tokens, IsFixed token) :
    tokenize segmenter options (joinWith [' '] tokens) = .ok tokens := by
  change tokensFrom segmenter options none (joinWith [' '] tokens) = .ok tokens
  induction tokens with
  | nil => exact tokensFrom_nil
  | cons token tokens ih =>
      rw [List.forall_mem_cons] at fixed
      have later := ih fixed.2
      cases tokens with
      | nil =>
          have step : tokensFrom segmenter options none (token ++ []) = _ :=
            tokensFrom_fixed fixed.1 (.inl rfl)
          rw [List.append_nil, tokensFrom_nil] at step
          rw [joinWith_singleton, step]
          rfl
      | cons next tokens =>
          rw [joinWith_cons_cons, List.append_assoc, List.singleton_append,
            tokensFrom_fixed fixed.1 (.inr ⟨_, rfl⟩), tokensFrom_space, later]
          rfl

/-- Without its spaces this is a directive's mark, a call, a number with a point and so on. -/
def abstractedLine : List (List Char) :=
  [['#', '#'], "if".toList, ['('], ['0'], ['.'], ['<'], "<Number>".toList, [')'], "int".toList, [';']]

theorem tokenize_abstractedLine :
    (∀ token ∈ abstractedLine, IsFixed token) ∧
      tokenize .plain ⟨.analysisTool, true, true⟩ (joinWith [' '] abstractedLine) =
        .ok abstractedLine := by
  have fixed : ∀ token ∈ abstractedLine, IsFixed token := by
    simp only [abstractedLine, List.forall_mem_cons, List.not_mem_nil, false_imp_iff, implies_true,
      and_true]
    exact ⟨.compound (by decide), .keyword (by decide), .punctuation (by decide), .zero,
      .punctuation (by decide), .operator (by decide), .placeholder (by decide),
      .punctuation (by decide), .type (by decide), .punctuation (by decide)⟩
  exact ⟨fixed, tokenize_joinWith_space .plain ⟨.analysisTool, true, true⟩ fixed⟩

end SymbolCorpus.PseudoCode
