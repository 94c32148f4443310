import SymbolCorpus.Proofs.AnonymousNames
import SymbolCorpus.Proofs.Gaps

/-! # Parentheses

The tokens of a text have the parentheses of its code, in the same order, but for one kind of call. A
decompiler's call is lexed together with its parenthesis, and where the name is masked because it
stands for no name, the placeholder takes the place of both. A name that the lexical rules know for
one is lexed without the parenthesis, so only the names that they overlook lose one.
-/

namespace SymbolCorpus.PseudoCode

open Text Identifier

def isParenthesis (c : Char) : Bool := c = '(' || c = ')'

/-- The parentheses of a text, in order. -/
def parentheses (text : List Char) : List Char := text.filter isParenthesis

/-- A text closes what is open before it and what it opens itself, and nothing else. -/
def closes : Nat → List Char → Bool
  | depth, [] => depth == 0
  | depth, c :: rest =>
      if c = '(' then closes (depth + 1) rest
      else if c = ')' then
        match depth with
        | 0 => false
        | depth + 1 => closes depth rest
      else closes depth rest

def IsBalanced (text : List Char) : Prop := closes 0 text = true

/-- A text without its comments. -/
def code (lexemes : List Lexeme) : List Char := cover (lexemes.filter (·.category ≠ .comment))

/-- The lexeme is a call of which only the placeholder is shown. -/
def Lexeme.isSwallowed (dialect : Dialect) (lexeme : Lexeme) : Bool :=
  dialect = .decompiler && lexeme.category = .nameFunction && (callParts lexeme.text).2 &&
    isAnonymous (callParts lexeme.text).1

/-- The parentheses that are shown of a lexeme that is no string. -/
def Lexeme.shownParentheses (dialect : Dialect) (lexeme : Lexeme) : List Char :=
  if lexeme.category = .comment || lexeme.isSwallowed dialect then [] else parentheses lexeme.text

/-! ## Texts -/

@[simp] theorem parentheses_nil : parentheses [] = [] := rfl

@[simp] theorem parentheses_append (left right : List Char) :
    parentheses (left ++ right) = parentheses left ++ parentheses right :=
  List.filter_append left right

theorem parentheses_eq_nil_iff {text : List Char} :
    parentheses text = [] ↔ '(' ∉ text ∧ ')' ∉ text := by
  rw [parentheses, List.filter_eq_nil_iff]
  constructor
  · intro none
    exact ⟨fun member => none _ member rfl, fun member => none _ member rfl⟩
  · rintro ⟨opening, closing⟩ c member parenthesis
    simp only [isParenthesis, Bool.or_eq_true, decide_eq_true_eq] at parenthesis
    rcases parenthesis with rfl | rfl
    · exact opening member
    · exact closing member

theorem isBlank_eq_false_of_isParenthesis {c : Char} (h : isParenthesis c = true) :
    isBlank c = false := by
  simp only [isParenthesis, Bool.or_eq_true, decide_eq_true_eq] at h
  rcases h with rfl | rfl <;> decide

theorem parentheses_trimStart (text : List Char) : parentheses (trimStart text) = parentheses text := by
  induction text with
  | nil => rfl
  | cons c rest ih =>
      cases blank : isBlank c with
      | false => rw [trimStart, List.dropWhile_cons_of_neg (by simp [blank])]
      | true =>
          have other : isParenthesis c = false := by
            cases parenthesis : isParenthesis c with
            | false => rfl
            | true =>
                rw [isBlank_eq_false_of_isParenthesis parenthesis] at blank
                cases blank
          simpa [parentheses, trimStart, blank, other] using ih

theorem parentheses_trim (text : List Char) : parentheses (trim text) = parentheses text := by
  have final := parentheses_trimStart (trimStart text).reverse
  have back : parentheses (trim text) = (parentheses (trimStart (trimStart text).reverse)).reverse := by
    rw [trim, trimEnd, parentheses, List.filter_reverse]
    rfl
  rw [back, final, parentheses, List.filter_reverse, List.reverse_reverse]
  exact parentheses_trimStart text

theorem parentheses_display (segmenter : Segmenter) (name : List Char) :
    parentheses (segmenter.display name) = [] :=
  parentheses_eq_nil_iff.mpr
    ⟨not_mem_display (by decide) (by decide) (by decide) segmenter name,
      not_mem_display (by decide) (by decide) (by decide) segmenter name⟩

theorem parentheses_words {text : List Char} (h : ∀ c ∈ text, isWord c = true) :
    parentheses text = [] := by
  refine parentheses_eq_nil_iff.mpr ⟨fun member => ?_, fun member => ?_⟩
  · exact absurd (h _ member) (by decide)
  · exact absurd (h _ member) (by decide)

theorem parentheses_wordRun (text : List Char) : parentheses (wordRun text) = [] :=
  parentheses_words fun _ => List.mem_takeWhile_imp

theorem closes_parentheses (depth : Nat) (text : List Char) :
    closes depth (parentheses text) = closes depth text := by
  induction text generalizing depth with
  | nil => rfl
  | cons c rest ih =>
      by_cases opening : c = '('
      · subst opening
        exact ih (depth + 1)
      · by_cases closing : c = ')'
        · subst closing
          cases depth with
          | zero => rfl
          | succ depth => exact ih depth
        · have other : isParenthesis c = false := by simp [isParenthesis, opening, closing]
          rw [parentheses, List.filter_cons_of_neg (by simp [other])]
          simp only [closes, opening, closing, if_false]
          exact ih depth

theorem count_of_closes {depth : Nat} {text : List Char} (h : closes depth text = true) :
    text.count ')' = depth + text.count '(' := by
  induction text generalizing depth with
  | nil =>
      simp only [closes, beq_iff_eq] at h
      simp [h]
  | cons c rest ih =>
      by_cases opening : c = '('
      · subst opening
        have inner : closes (depth + 1) rest = true := h
        simp [ih inner]
        omega
      · by_cases closing : c = ')'
        · subst closing
          cases depth with
          | zero => cases h
          | succ depth =>
              have inner : closes depth rest = true := h
              simp [ih inner]
              omega
        · simp only [closes, opening, closing, if_false] at h
          rw [List.count_cons_of_ne opening, List.count_cons_of_ne closing]
          exact ih h

theorem count_parentheses {c : Char} (h : isParenthesis c = true) (text : List Char) :
    (parentheses text).count c = text.count c :=
  List.count_filter h

/-! ## Lexemes -/

/-- The categories of which no rule takes a parenthesis along. -/
def Category.isBare : Category → Bool
  | .whitespace | .scopeOperator | .number | .identifier | .nameVariable | .nameRegister
  | .nameLabel | .nameCondition => true
  | _ => false

theorem bareRules_stop {gap : Char} (h : isParenthesis gap = true) (dialect : Dialect) :
    ∀ rule ∈ dialect.rules, rule.category.isBare = true → StopsAt gap rule.length := by
  have gapped : isGap gap = true := by
    simpa [isGap, isParenthesis, or_assoc] using Or.inr h
  have blanks : StopsAt gap blankLength := by
    simp only [isParenthesis, Bool.or_eq_true, decide_eq_true_eq] at h
    rcases h with rfl | rfl
    · exact stopsAt_blank (by decide) (by decide) (by decide)
    · exact stopsAt_blank (by decide) (by decide) (by decide)
  have common : ∀ rule ∈ commonRules, rule.category.isBare = true →
      rule = ⟨.whitespace, blankLength⟩ ∨ rule.category = .number ∨
        rule = ⟨.identifier, nameLength⟩ := by
    simp [commonRules, Category.isBare]
  intro rule member bare
  rw [dialect.rules_eq, List.mem_append, List.mem_cons] at member
  rcases member with early | rfl | later
  · exact earlyRules_stop gapped dialect rule early
  · cases dialect <;> cases bare
  · rcases common rule later bare with rfl | number | rfl
    · exact blanks
    · exact numberRules_stop gapped rule later number
    · exact stopsAt_name gapped

theorem parentheses_of_isBare {dialect : Dialect} {lexeme : Lexeme} (h : lexeme.IsTaken dialect)
    (bare : lexeme.category.isBare = true) : parentheses lexeme.text = [] := by
  obtain ⟨rest, length, found, taken⟩ := h
  obtain ⟨rule, member, category, rfl⟩ := exists_rule_of_firstMatch found
  rw [← category] at bare
  rw [taken]
  exact parentheses_eq_nil_iff.mpr
    ⟨(bareRules_stop (by decide) dialect rule member bare).not_mem rest,
      (bareRules_stop (by decide) dialect rule member bare).not_mem rest⟩

/-! ## Calls -/

theorem isAnonymous_of_isSubroutine {name : List Char} (h : isSubroutine name = true) :
    isAnonymous name = true := by
  obtain ⟨digits, rfl⟩ := exists_of_isStemWith h
  rw [isSubroutine, isStemWith_append, Bool.and_eq_true, List.all_eq_true] at h
  rw [isAnonymous, isStemWith_append, Bool.and_eq_true, List.all_eq_true]
  refine ⟨h.1, fun digit member => ?_⟩
  have upper := h.2 digit member
  rw [isUpperHexDigit_eq, Bool.and_eq_true] at upper
  exact upper.1

theorem function_of_isTaken {lexeme : Lexeme} (h : lexeme.IsTaken .decompiler)
    (function : lexeme.category = .nameFunction) :
    ∃ name, (∀ c ∈ name, isWord c = true) ∧
      (lexeme.text = name ∧ isSubroutine name = true ∨
        lexeme.text = name ++ ['('] ∧ isSubroutine name = false) := by
  obtain ⟨rest, length, found, taken⟩ := h
  have applies := firstMatch_pos found
  have cases : ∀ rule ∈ Dialect.decompiler.rules, rule.category = .nameFunction →
      rule = ⟨.nameFunction, wholeWord isSubroutine⟩ ∨ rule = ⟨.nameFunction, callLength⟩ := by
    simp [Dialect.rules, leadingRules, dialectRules, keywordRules, callRule, commonRules]
  obtain ⟨rule, member, category, rfl⟩ := exists_rule_of_firstMatch found
  refine ⟨wordRun rest, fun _ => List.mem_takeWhile_imp, ?_⟩
  rw [taken]
  rcases cases rule member (category.trans function) with rfl | rfl
  · left
    refine ⟨take_wholeWord applies, ?_⟩
    by_contra rejected
    have idle := wholeWord_of_rejected rfl (by simpa using rejected : isSubroutine (wordRun rest) = false)
    exact absurd idle (Nat.ne_of_gt applies)
  · right
    obtain ⟨whole, named, call⟩ := take_callLength applies
    refine ⟨call.trans (congrArg (· ++ ['(']) (take_wholeWord named)), ?_⟩
    cases subroutine : isSubroutine (wordRun rest) with
    | false => rfl
    | true =>
        -- The rule for such names comes first, and it leaves the parenthesis.
        obtain ⟨digits, spelled⟩ := exists_of_isStemWith subroutine
        rw [Dialect.rules, firstMatch_append, firstMatch_append, firstMatch_append,
          firstMatch_leadingRules spelled, firstMatch_dialectRules spelled, if_pos subroutine,
          Option.none_or, Option.some_or, Option.some_or] at found
        have short : (wordRun rest).length = callLength rest :=
          (Prod.mk.inj (Option.some.inj found)).2
        have name := nameLength_of_wordRun spelled
        omega

theorem parentheses_of_toolFunction {lexeme : Lexeme} (h : lexeme.IsTaken .analysisTool)
    (function : lexeme.category = .nameFunction) : parentheses lexeme.text = [] := by
  obtain ⟨rest, length, found, taken⟩ := h
  have applies := firstMatch_pos found
  obtain ⟨rule, member, category, rfl⟩ := exists_rule_of_firstMatch found
  rcases Dialect.rules_takeWord member (.inr (category.trans function)) applies with word | ⟨-, own, -⟩
  · rw [taken, word]
    exact parentheses_wordRun rest
  · cases own

theorem parentheses_of_isSwallowed {dialect : Dialect} {lexeme : Lexeme} (h : lexeme.IsTaken dialect)
    (swallowed : lexeme.isSwallowed dialect = true) :
    ∃ name, lexeme.text = name ++ ['('] ∧ parentheses lexeme.text = ['('] ∧
      isAnonymous name = true ∧ ∃ digit ∈ name.drop 4, digit.isLower = true := by
  simp only [Lexeme.isSwallowed, Bool.and_eq_true, decide_eq_true_eq] at swallowed
  obtain ⟨⟨⟨rfl, function⟩, call⟩, anonymous⟩ := swallowed
  obtain ⟨name, words, ⟨text, -⟩ | ⟨text, missed⟩⟩ := function_of_isTaken h function
  · rw [text, callParts_of_words words] at call
    cases call
  · rw [text, callParts_concat] at anonymous
    refine ⟨name, text, ?_, anonymous, (isSubroutine_eq_false_iff anonymous).mp missed⟩
    rw [text, parentheses_append, parentheses_words words]
    rfl

theorem shownParentheses_of_kept {dialect : Dialect} {lexeme : Lexeme}
    (kept : lexeme.category ≠ .comment) (whole : lexeme.isSwallowed dialect = false) :
    lexeme.shownParentheses dialect = parentheses lexeme.text := by
  simp [Lexeme.shownParentheses, kept, whole]

theorem isSwallowed_of_other {dialect : Dialect} {lexeme : Lexeme}
    (other : dialect ≠ .decompiler ∨ lexeme.category ≠ .nameFunction) :
    lexeme.isSwallowed dialect = false := by
  rcases other with tool | category
  · simp [Lexeme.isSwallowed, tool]
  · simp [Lexeme.isSwallowed, category]

/-! ## Tokens -/

theorem parentheses_renderCall (segmenter : Segmenter) (options : TokenOptions) {lexeme : Lexeme}
    (h : lexeme.IsTaken .decompiler) (function : lexeme.category = .nameFunction) :
    parentheses (renderCall segmenter options lexeme.text) = lexeme.shownParentheses .decompiler := by
  have placeholder : parentheses functionPlaceholder = [] := by decide
  have suffix : parentheses " (".toList = ['('] := by decide
  obtain ⟨name, words, ⟨text, subroutine⟩ | ⟨text, -⟩⟩ := function_of_isTaken h function
  · have anonymous := isAnonymous_of_isSubroutine subroutine
    have parts := callParts_of_words words
    have whole : lexeme.isSwallowed .decompiler = false := by simp [Lexeme.isSwallowed, text, parts]
    rw [shownParentheses_of_kept (by simp [function]) whole, text, parentheses_words words]
    simp [renderCall, parts, anonymous, placeholder]
  · have parts := callParts_concat name
    cases anonymous : isAnonymous name with
    | true => simp [renderCall, Lexeme.shownParentheses, Lexeme.isSwallowed, function, text, parts,
        anonymous, placeholder]
    | false =>
        have whole : lexeme.isSwallowed .decompiler = false := by
          simp [Lexeme.isSwallowed, text, parts, anonymous]
        rw [shownParentheses_of_kept (by simp [function]) whole, text, parentheses_append,
          parentheses_words words, renderCall, parts]
        simp only [anonymous, Bool.false_eq_true, if_false, if_true]
        split
        · rw [parentheses_append, placeholder, suffix]
          rfl
        · split
          · rfl
          · rw [parentheses_append, parentheses_display, suffix]
            rfl

theorem parentheses_renderFunction (segmenter : Segmenter) (options : TokenOptions)
    (defined : Option (List Char)) (name : List Char) :
    parentheses (renderFunction segmenter options defined name).1 = [] := by
  have placeholder : parentheses functionPlaceholder = [] := by decide
  unfold renderFunction
  cases defined with
  | none => exact placeholder
  | some definition =>
      dsimp only
      split
      · exact placeholder
      · exact parentheses_display segmenter name

theorem parentheses_of_bare {segmenter : Segmenter} {options : TokenOptions}
    {defined definition token : Option (List Char)} {lexeme : Lexeme}
    (bare : lexeme.category.isBare = true) (none : parentheses lexeme.text = [])
    (shown : renderLexeme segmenter options defined lexeme = .ok (token, definition)) :
    parentheses (token.getD []) = [] := by
  obtain ⟨dialect, keepStrings, keepCalls⟩ := options
  obtain ⟨category, text, offset⟩ := lexeme
  have placeholders : parentheses functionPlaceholder = [] ∧ parentheses numberPlaceholder = [] ∧
      parentheses variablePlaceholder = [] ∧ parentheses labelPlaceholder = [] ∧
      parentheses conditionPlaceholder = [] := by
    decide
  obtain ⟨function, number, synthetic, label, condition⟩ := placeholders
  cases category <;> cases bare
  case whitespace | scopeOperator =>
    simp only [renderLexeme, Except.ok.injEq, Prod.mk.injEq] at shown
    rw [← shown.1]
    rfl
  case number =>
    simp only [renderLexeme, Except.ok.injEq, Prod.mk.injEq] at shown
    rw [← shown.1, Option.getD_some]
    split
    · exact none
    · exact number
  case identifier =>
    cases dialect <;> simp only [renderLexeme, Except.ok.injEq, Prod.mk.injEq] at shown <;>
      rw [← shown.1, Option.getD_some] <;> split
    · exact none
    · exact parentheses_display segmenter text
    · exact function
    · exact parentheses_display segmenter text
  case nameVariable =>
    cases dialect <;> simp only [renderLexeme, Except.ok.injEq, Prod.mk.injEq, reduceCtorEq] at shown
    rw [← shown.1]
    exact synthetic
  case nameRegister =>
    cases dialect <;> simp only [renderLexeme, Except.ok.injEq, Prod.mk.injEq, reduceCtorEq] at shown
    rw [← shown.1, Option.getD_some]
    obtain ⟨opening, closing⟩ := parentheses_eq_nil_iff.mp none
    exact parentheses_eq_nil_iff.mpr
      ⟨fun member => opening ((List.takeWhile_sublist _).subset member),
        fun member => closing ((List.takeWhile_sublist _).subset member)⟩
  case nameLabel =>
    cases dialect <;> simp only [renderLexeme, Except.ok.injEq, Prod.mk.injEq, reduceCtorEq] at shown
    rw [← shown.1]
    exact label
  case nameCondition =>
    cases dialect <;> simp only [renderLexeme, Except.ok.injEq, Prod.mk.injEq, reduceCtorEq] at shown
    rw [← shown.1]
    exact condition

/-- The token of a lexeme shows the parentheses of its text, unless it is swallowed. -/
theorem parentheses_renderLexeme {segmenter : Segmenter} {options : TokenOptions}
    {defined definition token : Option (List Char)} {lexeme : Lexeme}
    (h : lexeme.IsTaken options.dialect) (other : lexeme.category ≠ .string)
    (shown : renderLexeme segmenter options defined lexeme = .ok (token, definition)) :
    parentheses (token.getD []) = lexeme.shownParentheses options.dialect := by
  by_cases bare : lexeme.category.isBare = true
  · have none := parentheses_of_isBare h bare
    have named : lexeme.category ≠ .nameFunction := by
      intro function
      rw [function] at bare
      cases bare
    have kept : lexeme.category ≠ .comment := by
      intro comment
      rw [comment] at bare
      cases bare
    rw [parentheses_of_bare bare none shown,
      shownParentheses_of_kept kept (isSwallowed_of_other (.inr named)), none]
  · obtain ⟨dialect, keepStrings, keepCalls⟩ := options
    cases category : lexeme.category
    case nameFunction =>
      cases dialect with
      | decompiler =>
          simp only [renderLexeme, category, Except.ok.injEq, Prod.mk.injEq] at shown
          rw [← shown.1]
          exact parentheses_renderCall segmenter _ h category
      | analysisTool =>
          simp only [renderLexeme, category, Except.ok.injEq, Prod.mk.injEq] at shown
          rw [← shown.1, shownParentheses_of_kept (by simp [category]) (isSwallowed_of_other (by simp)),
            parentheses_of_toolFunction h category]
          exact parentheses_renderFunction segmenter _ defined lexeme.text
    case comment =>
      simp only [renderLexeme, category, Except.ok.injEq, Prod.mk.injEq] at shown
      rw [← shown.1]
      simp [Lexeme.shownParentheses, category]
    case placeholder =>
      simp only [renderLexeme, category, Except.ok.injEq, Prod.mk.injEq] at shown
      rw [← shown.1]
      exact (shownParentheses_of_kept (by simp [category]) (isSwallowed_of_other (by simp [category]))).symm
    case operator | punctuation | keyword | keywordType | other =>
      simp only [renderLexeme, category, Except.ok.injEq, Prod.mk.injEq] at shown
      rw [← shown.1, Option.getD_some, parentheses_trim]
      exact (shownParentheses_of_kept (by simp [category]) (isSwallowed_of_other (by simp [category]))).symm
    all_goals simp [category, Category.isBare] at bare other

theorem parentheses_keepToken (token : Option (List Char)) (tokens : List (List Char)) :
    parentheses (keepToken token tokens).flatten =
      parentheses (token.getD []) ++ parentheses tokens.flatten := by
  cases token with
  | none => rfl
  | some text =>
      cases text with
      | nil => rfl
      | cons c rest =>
          rw [keepToken]
          exact parentheses_append (c :: rest) tokens.flatten

theorem parentheses_renderFragments {segmenter : Segmenter} {options : TokenOptions}
    {lexemes : List Lexeme} (taken : ∀ lexeme ∈ lexemes, lexeme.IsTaken options.dialect)
    (plain : ∀ lexeme ∈ lexemes, lexeme.category ≠ .string) :
    ∀ {defined : Option (List Char)} {tokens : List (List Char)},
      renderFragments segmenter options defined (fragments lexemes) = .ok tokens →
      parentheses tokens.flatten = lexemes.flatMap (·.shownParentheses options.dialect) := by
  induction lexemes with
  | nil =>
      intro defined tokens run
      obtain rfl := Except.ok.inj run
      rfl
  | cons lexeme lexemes ih =>
      intro defined tokens run
      rw [List.forall_mem_cons] at taken plain
      rw [fragments_of_other plain.1] at run
      obtain ⟨token, definition, later, shown, behind, rfl⟩ := renderFragments_single_inv run
      rw [parentheses_keepToken, parentheses_renderLexeme taken.1 plain.1 shown,
        ih taken.2 plain.2 behind, List.flatMap_cons]

/-! ## Counting -/

theorem code_cons (lexeme : Lexeme) (lexemes : List Lexeme) :
    code (lexeme :: lexemes) =
      (if lexeme.category = .comment then [] else lexeme.text) ++ code lexemes := by
  by_cases comment : lexeme.category = .comment <;> simp [code, comment]

theorem parentheses_code {dialect : Dialect} {lexemes : List Lexeme}
    (whole : ∀ lexeme ∈ lexemes, lexeme.isSwallowed dialect = false) :
    lexemes.flatMap (·.shownParentheses dialect) = parentheses (code lexemes) := by
  induction lexemes with
  | nil => rfl
  | cons lexeme lexemes ih =>
      rw [List.forall_mem_cons] at whole
      rw [List.flatMap_cons, ih whole.2, code_cons, parentheses_append]
      by_cases comment : lexeme.category = .comment <;> simp [Lexeme.shownParentheses, comment, whole.1]

/-- Each swallowed call takes one opening parenthesis away, and nothing else is lost. -/
theorem count_shownParentheses {dialect : Dialect} {lexemes : List Lexeme}
    (taken : ∀ lexeme ∈ lexemes, lexeme.IsTaken dialect) :
    (lexemes.flatMap (·.shownParentheses dialect)).count ')' = (code lexemes).count ')' ∧
      (lexemes.flatMap (·.shownParentheses dialect)).count '(' +
        lexemes.countP (·.isSwallowed dialect) = (code lexemes).count '(' := by
  induction lexemes with
  | nil => exact ⟨rfl, rfl⟩
  | cons lexeme lexemes ih =>
      rw [List.forall_mem_cons] at taken
      obtain ⟨closing, opening⟩ := ih taken.2
      rw [code_cons, List.flatMap_cons, List.count_append, List.count_append, List.count_append,
        List.count_append, List.countP_cons]
      cases swallowed : lexeme.isSwallowed dialect with
      | true =>
          obtain ⟨name, -, single, -⟩ := parentheses_of_isSwallowed taken.1 swallowed
          have kept : lexeme.category ≠ .comment := by
            intro comment
            simp [Lexeme.isSwallowed, comment] at swallowed
          have none : lexeme.shownParentheses dialect = [] := by
            simp [Lexeme.shownParentheses, swallowed]
          rw [if_neg kept, none, ← count_parentheses (by decide) lexeme.text,
            ← count_parentheses (by decide) lexeme.text, single]
          simp only [List.count_nil, if_true]
          exact ⟨by simpa using closing, by simp; omega⟩
      | false =>
          by_cases comment : lexeme.category = .comment
          · have none : lexeme.shownParentheses dialect = [] := by
              simp [Lexeme.shownParentheses, comment]
            simp [none, comment, closing, opening]
          · rw [shownParentheses_of_kept comment swallowed, if_neg comment,
              count_parentheses (by decide), count_parentheses (by decide)]
            simp only [Bool.false_eq_true, if_false]
            omega

/-- The closing parentheses of the tokens are those of the code, and so are the opening ones but for
    those that are swallowed, one for each call of a name that the rules overlook. The tokens of
    balanced code are balanced exactly when no call is swallowed. -/
theorem parentheses_tokenize (segmenter : Segmenter) (options : TokenOptions) (source : List Char) :
    ∃ lexemes tokens, lex options.dialect source = .ok lexemes ∧
      tokenize segmenter options source = .ok tokens ∧
      ((∀ lexeme ∈ lexemes, lexeme.category ≠ .string) →
        tokens.flatten.count ')' = (code lexemes).count ')' ∧
        tokens.flatten.count '(' + lexemes.countP (·.isSwallowed options.dialect) =
          (code lexemes).count '(' ∧
        (IsBalanced (code lexemes) → (IsBalanced tokens.flatten ↔
          ∀ lexeme ∈ lexemes, lexeme.isSwallowed options.dialect = false)) ∧
        ∀ lexeme ∈ lexemes, lexeme.isSwallowed options.dialect = true →
          ∃ name, lexeme.text = name ++ ['('] ∧ isAnonymous name = true ∧
            ∃ digit ∈ name.drop 4, digit.isLower = true) := by
  obtain ⟨lexemes, tokens, run, rendered⟩ := exists_rendering segmenter options source
  refine ⟨lexemes, tokens, run, (tokenize_of_lex run).trans rendered, fun plain => ?_⟩
  have taken := isTaken_of_mem_lex run
  have shown := parentheses_renderFragments taken plain rendered
  obtain ⟨closing, opening⟩ := count_shownParentheses taken
  rw [← shown, count_parentheses (by decide)] at closing opening
  refine ⟨closing, opening, fun balanced => ⟨fun tokensBalanced => ?_, fun whole => ?_⟩, ?_⟩
  · have before := count_of_closes balanced
    have behind := count_of_closes tokensBalanced
    have none : lexemes.countP (·.isSwallowed options.dialect) = 0 := by omega
    intro lexeme member
    simpa using List.countP_eq_zero.mp none lexeme member
  · rw [IsBalanced, ← closes_parentheses, shown, parentheses_code whole, closes_parentheses]
    exact balanced
  · intro lexeme member swallowed
    obtain ⟨name, text, -, anonymous, small⟩ := parentheses_of_isSwallowed (taken lexeme member) swallowed
    exact ⟨name, text, anonymous, small⟩

theorem lex_overlookedCall : lex .decompiler "sub_a(b)".toList =
    .ok [⟨.nameFunction, "sub_a(".toList, 0⟩, ⟨.identifier, ['b'], 6⟩, ⟨.punctuation, [')'], 7⟩] :=
  lex_of_lexesAs (by decide) (by decide)

/-- The call of an overlooked name leaves its closing parenthesis alone. -/
theorem unbalanced_overlookedCall :
    ∃ lexemes tokens, lex .decompiler "sub_a(b)".toList = .ok lexemes ∧
      tokenize .plain .standard "sub_a(b)".toList = .ok tokens ∧
      (∀ lexeme ∈ lexemes, lexeme.category ≠ .string) ∧ IsBalanced (code lexemes) ∧
      tokens.flatten.count ')' = 1 ∧ tokens.flatten.count '(' = 0 ∧ ¬IsBalanced tokens.flatten := by
  obtain ⟨lexemes, tokens, run, rendered, shown⟩ :=
    parentheses_tokenize .plain .standard "sub_a(b)".toList
  obtain rfl := Except.ok.inj (lex_overlookedCall.symm.trans run)
  have plain : ∀ lexeme ∈ ([⟨.nameFunction, "sub_a(".toList, 0⟩, ⟨.identifier, ['b'], 6⟩,
      ⟨.punctuation, [')'], 7⟩] : List Lexeme), lexeme.category ≠ .string := by
    decide
  obtain ⟨closing, opening, balance, -⟩ := shown plain
  have balanced : IsBalanced (code [⟨.nameFunction, "sub_a(".toList, 0⟩, ⟨.identifier, ['b'], 6⟩,
      ⟨.punctuation, [')'], 7⟩]) := by
    unfold IsBalanced
    decide
  refine ⟨_, tokens, run, rendered, plain, balanced, closing, ?_, fun tokensBalanced => ?_⟩
  · exact Nat.add_right_cancel (m := 1) (k := 0) opening
  · exact absurd ((balance balanced).mp tokensBalanced _ List.mem_cons_self) (by decide)

end SymbolCorpus.PseudoCode
