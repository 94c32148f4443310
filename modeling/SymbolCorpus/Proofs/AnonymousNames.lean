import SymbolCorpus.Proofs.OwnName
import SymbolCorpus.Proofs.Rendering
import SymbolCorpus.Proofs.Tokens

/-! # Names that stand for no name

Two tests tell such a name apart. The one of the lexical rules wants capitals among its digits, the
one of the rendering takes small letters as well. A name that the first test misses is still lexed as
a function when a parenthesis opens behind it, and is masked then like any other. Otherwise it is an
identifier, and unless it is the name that the text defines its letters are shown.
-/

namespace SymbolCorpus.PseudoCode

open Text Identifier

theorem isStemWith_append (stem rest : List Char) (test : Char → Bool) :
    isStemWith stem test (stem ++ rest) = (!rest.isEmpty && rest.all test) := by
  have parted : stem.isPrefixOf? (stem ++ rest) = some rest :=
    List.isPrefixOf?_eq_some_iff_append_eq.mpr rfl
  rw [isStemWith, afterStem?, parted]

theorem exists_of_isStemWith {stem word : List Char} {test : Char → Bool}
    (h : isStemWith stem test word = true) : ∃ rest, word = stem ++ rest := by
  unfold isStemWith afterStem? at h
  split at h
  · next rest parted => exact ⟨rest, (List.isPrefixOf?_eq_some_iff_append_eq.mp parted).symm⟩
  · cases h

/-! ## The two tests -/

theorem isUpperHexDigit_eq (c : Char) : isUpperHexDigit c = (isHexDigit c && !c.isLower) := by
  have lower : c.isLower = (decide ('a' ≤ c) && decide (c ≤ 'z')) := rfl
  have digit : c.isDigit = (decide ('0' ≤ c) && decide (c ≤ '9')) := rfl
  rw [isUpperHexDigit, isHexDigit, lower, digit, Bool.eq_iff_iff]
  simp only [Bool.or_eq_true, Bool.and_eq_true, Bool.not_eq_true', Bool.and_eq_false_iff,
    decide_eq_true_eq, decide_eq_false_iff_not, Char.le_def, UInt32.le_iff_toNat_le,
    Char.reduceVal, UInt32.reduceToNat]
  omega

/-- The rules miss a name exactly when one of its digits, which follow the first four characters, is
    a small letter. -/
theorem isSubroutine_eq_false_iff {name : List Char} (anonymous : isAnonymous name = true) :
    isSubroutine name = false ↔ ∃ digit ∈ name.drop 4, digit.isLower = true := by
  obtain ⟨digits, rfl⟩ := exists_of_isStemWith anonymous
  rw [isAnonymous, isStemWith_append, Bool.and_eq_true, List.all_eq_true] at anonymous
  obtain ⟨some, hexadecimal⟩ := anonymous
  rw [isSubroutine, isStemWith_append, some, Bool.true_and, List.all_eq_false]
  refine exists_congr fun digit => and_congr_right fun member => ?_
  rw [isUpperHexDigit_eq, hexadecimal digit member]
  simp

example : isAnonymous "sub_40a1c".toList = true ∧ isSubroutine "sub_40a1c".toList = false := by
  decide

/-! ## The rule that takes it -/

/-- A parenthesis opens behind a name, in the place where a dialect looks for the one of a call. -/
def opensCall (dialect : Dialect) (behind : List Char) : Bool :=
  match dialect with
  | .decompiler => behind.head? = some '('
  | .analysisTool => (behind.dropWhile isBlank).head? = some '('

section Tables

variable {text digits : List Char} (h : wordRun text = "sub_".toList ++ digits)
include h

theorem exists_cons_of_wordRun : ∃ rest, text = 's' :: rest := by
  have whole : wordRun text ++ text.dropWhile isWord = text := List.takeWhile_append_dropWhile
  rw [h] at whole
  exact ⟨_, whole.symm⟩

theorem firstMatch_leadingRules : firstMatch leadingRules text = none := by
  obtain ⟨rest, rfl⟩ := exists_cons_of_wordRun h
  rfl

theorem firstMatch_dialectRules (dialect : Dialect) :
    firstMatch (dialectRules dialect) text =
      if isSubroutine (wordRun text) then some (.nameFunction, (wordRun text).length) else none := by
  have nonempty : 0 < (wordRun text).length := by simp [h]
  have subroutine (others : List Rule) (idle : firstMatch others text = none) :
      firstMatch (⟨.nameFunction, wholeWord isSubroutine⟩ :: others) text =
        if isSubroutine (wordRun text) then some (.nameFunction, (wordRun text).length)
        else none := by
    by_cases accepted : isSubroutine (wordRun text) = true <;>
      simp [firstMatch, wholeWord, accepted, nonempty, idle]
  cases dialect with
  | decompiler =>
      have types : firstMatch
          [⟨.keywordType, wholeWord isSizedType⟩, ⟨.keywordType, wholeWord isOpaqueType⟩] text =
            none := by
        refine firstMatch_of_idle ?_
        simp only [List.forall_mem_cons, List.not_mem_nil, false_imp_iff, implies_true, and_true]
        exact ⟨wholeWord_of_rejected h rfl, wholeWord_of_rejected h rfl⟩
      change firstMatch ([_, _] ++ [⟨.nameFunction, wholeWord isSubroutine⟩]) text = _
      rw [firstMatch_append, types, subroutine [] rfl, Option.none_or]
  | analysisTool =>
      obtain ⟨rest, begins⟩ := exists_cons_of_wordRun h
      have condition : conditionLength text = 0 := by rw [begins]; rfl
      refine subroutine _ (firstMatch_of_idle ?_)
      simp only [List.forall_mem_cons, List.not_mem_nil, false_imp_iff, implies_true, and_true]
      exact ⟨condition, wholeWord_of_rejected h rfl, wholeWord_of_rejected h rfl,
        wholeWord_of_rejected h rfl, wholeWord_of_rejected h rfl, wholeWord_of_rejected h rfl⟩

theorem firstMatch_keywordRules : firstMatch keywordRules text = none := by
  refine firstMatch_of_idle ?_
  simp only [keywordRules, List.forall_mem_cons, List.not_mem_nil, false_imp_iff, implies_true,
    and_true]
  exact ⟨wholeWord_of_rejected h rfl, wholeWord_of_rejected h rfl⟩

theorem nameLength_of_wordRun : nameLength text = (wordRun text).length := by
  rw [nameLength, wholeWord, h]
  rfl

theorem callRule_pos_iff (dialect : Dialect) :
    0 < (callRule dialect).length text ↔ opensCall dialect (text.dropWhile isWord) = true := by
  have named := nameLength_of_wordRun h
  have nonempty : (wordRun text).length ≠ 0 := by simp [h]
  have behind : text.drop (wordRun text).length = text.dropWhile isWord :=
    drop_takeWhile_length isWord text
  cases dialect with
  | decompiler =>
      change 0 < callLength text ↔ decide ((text.dropWhile isWord).head? = some '(') = true
      rw [callLength, named, behind, decide_eq_true_eq]
      split
      · next opened => simp [nonempty, opened]
      · next closed =>
          simp only [Nat.lt_irrefl, false_iff, List.head?_eq_some_iff]
          exact fun ⟨rest, opened⟩ => closed rest opened
  | analysisTool =>
      change 0 < calledNameLength text ↔
        decide (((text.dropWhile isWord).dropWhile isBlank).head? = some '(') = true
      rw [calledNameLength, named, behind, decide_eq_true_eq]
      split
      · next opened => simp [Nat.pos_of_ne_zero nonempty, opened]
      · next closed =>
          simp only [Nat.lt_irrefl, false_iff, List.head?_eq_some_iff]
          exact fun ⟨rest, opened⟩ => closed rest opened

theorem firstMatch_commonRules :
    firstMatch commonRules text = some (.identifier, (wordRun text).length) := by
  have nonempty : 0 < (wordRun text).length := by simp [h]
  have named := nameLength_of_wordRun h
  obtain ⟨rest, rfl⟩ := exists_cons_of_wordRun h
  have late : firstMatch commonRules ('s' :: rest) =
      firstMatch [⟨.identifier, nameLength⟩, ⟨.other, oneChar fun c => !isBlank c && !isWord c⟩]
        ('s' :: rest) := rfl
  rw [late, firstMatch]
  simp only [named, nonempty, if_true]

/-- The name is an identifier for the lexer where the rules miss it and no call opens behind it. -/
theorem category_eq_identifier_iff {dialect : Dialect} {category : Category} {length : Nat}
    (found : firstMatch dialect.rules text = some (category, length)) :
    category = .identifier ↔
      isSubroutine (wordRun text) = false ∧ opensCall dialect (text.dropWhile isWord) = false := by
  have calls := callRule_pos_iff h dialect
  have function : (callRule dialect).category = .nameFunction := by cases dialect <;> rfl
  rw [Dialect.rules, firstMatch_append, firstMatch_append, firstMatch_append,
    firstMatch_leadingRules h, firstMatch_dialectRules h, firstMatch_keywordRules h, Option.none_or,
    Option.or_none, firstMatch, firstMatch_commonRules h] at found
  cases subroutine : isSubroutine (wordRun text) with
  | true =>
      rw [subroutine, if_pos rfl, Option.some_or] at found
      obtain ⟨rfl, -⟩ := Prod.mk.inj (Option.some.inj found)
      simp
  | false =>
      rw [subroutine, if_neg Bool.false_ne_true, Option.none_or] at found
      split at found
      · next called =>
          obtain ⟨rfl, -⟩ := Prod.mk.inj (Option.some.inj found)
          simp [function, calls.mp called]
      · next uncalled =>
          obtain ⟨rfl, -⟩ := Prod.mk.inj (Option.some.inj found)
          simpa using fun opened => uncalled (calls.mpr opened)

end Tables

/-! ## The token -/

theorem display_ne_functionPlaceholder (segmenter : Segmenter) (name : List Char) :
    segmenter.display name ≠ functionPlaceholder := by
  intro same
  have bracket : '<' ∈ segmenter.display name := by rw [same]; decide
  exact not_mem_display (by decide) (by decide) (by decide) segmenter name bracket

theorem display_ne_nil {name : List Char} {c : Char} (member : c ∈ name)
    (letter : isAlphabetic c = true) (segmenter : Segmenter) : segmenter.display name ≠ [] := by
  intro empty
  have none := (joinWith_eq_nil_iff fun _ => Segmenter.ne_nil_of_mem_segment).mp empty
  rw [Segmenter.segment_eq_nil_iff.mp none c member] at letter
  cases letter

/-- What makes a name that stands for no name show in letters: the rules miss it, no call opens
    behind it, and the lexemes before it do not define it. -/
structure Overlooked (dialect : Dialect) (before : List Lexeme) (name behind : List Char) : Prop where
  /-- The digits of the name follow the first four characters. -/
  small : ∃ digit ∈ name.drop 4, digit.isLower = true
  uncalled : opensCall dialect behind = false
  undefined : definedBy dialect before ≠ some name

theorem renderCall_of_anonymous (segmenter : Segmenter) (options : TokenOptions) {text : List Char}
    (anonymous : isAnonymous (callParts text).1 = true) :
    renderCall segmenter options text = functionPlaceholder := by
  simp only [renderCall, anonymous, if_true]

theorem renderFunction_of_anonymous (segmenter : Segmenter) (options : TokenOptions)
    (defined : Option (List Char)) {name : List Char} (anonymous : isAnonymous name = true) :
    (renderFunction segmenter options defined name).1 = functionPlaceholder := by
  cases defined with
  | none => rfl
  | some definition => simp [renderFunction, anonymous]

theorem render_of_function {segmenter : Segmenter} {options : TokenOptions}
    {defined definition token : Option (List Char)} {lexeme : Lexeme}
    (function : lexeme.category = .nameFunction)
    (anonymous : isAnonymous (callParts lexeme.text).1 = true)
    (whole : options.dialect = .analysisTool → (callParts lexeme.text).1 = lexeme.text)
    (shown : renderLexeme segmenter options defined lexeme = .ok (token, definition)) :
    token = some functionPlaceholder := by
  obtain ⟨dialect, keepStrings, keepCalls⟩ := options
  cases dialect with
  | decompiler =>
      simp only [renderLexeme, function, renderCall_of_anonymous _ _ anonymous, Except.ok.injEq,
        Prod.mk.injEq] at shown
      exact shown.1.symm
  | analysisTool =>
      rw [whole rfl] at anonymous
      simp only [renderLexeme, function, renderFunction_of_anonymous _ _ _ anonymous,
        Except.ok.injEq, Prod.mk.injEq] at shown
      exact shown.1.symm

theorem render_of_identifier {segmenter : Segmenter} {options : TokenOptions}
    {before : List Lexeme} {definition token : Option (List Char)} {lexeme : Lexeme}
    (identifier : lexeme.category = .identifier) (anonymous : isAnonymous lexeme.text = true)
    (shown : renderLexeme segmenter options (definedBy options.dialect before) lexeme =
      .ok (token, definition)) :
    token = some (if definedBy options.dialect before = some lexeme.text then functionPlaceholder
      else segmenter.display lexeme.text) := by
  obtain ⟨dialect, keepStrings, keepCalls⟩ := options
  cases dialect with
  | decompiler =>
      obtain ⟨digits, spelled⟩ := exists_of_isStemWith anonymous
      have natural : isSynthetic lexeme.text = false := by rw [spelled]; rfl
      simp only [renderLexeme, identifier, natural, Except.ok.injEq, Prod.mk.injEq] at shown
      simp [definedBy_decompiler, ← shown.1]
  | analysisTool =>
      simp only [renderLexeme, identifier, Except.ok.injEq, Prod.mk.injEq] at shown
      exact shown.1.symm

theorem render_of_anonymous {segmenter : Segmenter} {options : TokenOptions} {offset : Nat}
    {text : List Char} {before after : List Lexeme} {lexeme : Lexeme}
    {definition token : Option (List Char)}
    (run : lexFrom options.dialect.rules offset text = .ok (lexeme :: after))
    (named : lexeme.category.IsNamed) (anonymous : isAnonymous (wordRun text) = true)
    (shown : renderLexeme segmenter options (definedBy options.dialect before) lexeme =
      .ok (token, definition)) :
    (Overlooked options.dialect before (wordRun text) (text.dropWhile isWord) ∧
      token = some (segmenter.display (wordRun text))) ∨
    (¬Overlooked options.dialect before (wordRun text) (text.dropWhile isWord) ∧
      token = some functionPlaceholder) := by
  obtain ⟨digits, spelled⟩ := exists_of_isStemWith anonymous
  obtain ⟨length, found, -⟩ := lexFrom_cons_inv run
  have kind := category_eq_identifier_iff spelled found
  have missed := isSubroutine_eq_false_iff anonymous
  have name := callParts_of_isNamed run named
  rcases named with identifier | function
  case inl =>
    have whole : lexeme.text = wordRun text := by
      rcases text_of_isNamed run (.inl identifier) with word | ⟨function, -⟩
      · exact word
      · rw [identifier] at function
        cases function
    have result := render_of_identifier identifier (whole ▸ anonymous) shown
    rw [whole] at result
    obtain ⟨small, uncalled⟩ := kind.mp identifier
    by_cases own : definedBy options.dialect before = some (wordRun text)
    · rw [if_pos own] at result
      exact .inr ⟨fun overlooked => overlooked.undefined own, result⟩
    · rw [if_neg own] at result
      exact .inl ⟨⟨missed.mp small, uncalled, own⟩, result⟩
  case inr =>
    refine .inr ⟨fun overlooked => ?_, render_of_function function (name ▸ anonymous) ?_ shown⟩
    · have identifier := kind.mpr ⟨missed.mpr overlooked.small, overlooked.uncalled⟩
      rw [function] at identifier
      cases identifier
    · intro tool
      rcases text_of_isNamed run (.inr function) with word | ⟨-, decompiled, -⟩
      · rw [name, word]
      · rw [tool] at decompiled
        cases decompiled

/-- What an anonymous name is shown as, wherever a text has it as a name: its letters where it is
    overlooked, and the placeholder everywhere else. -/
theorem token_of_anonymous (segmenter : Segmenter) (options : TokenOptions) (source : List Char) :
    ∃ lexemes tokens, lex options.dialect source = .ok lexemes ∧
      tokenize segmenter options source = .ok tokens ∧
      ∀ before lexeme after, lexemes = before ++ lexeme :: after → lexeme.category.IsNamed →
        isAnonymous (callParts lexeme.text).1 = true →
        ∃ behind earlier token later,
          source = cover before ++ ((callParts lexeme.text).1 ++ behind) ∧
          Around segmenter options before lexeme after earlier (some token) later ∧
          tokens = earlier ++ token :: later ∧
          (Overlooked options.dialect before (callParts lexeme.text).1 behind →
            token = segmenter.display (callParts lexeme.text).1) ∧
          (token = functionPlaceholder ↔
            ¬Overlooked options.dialect before (callParts lexeme.text).1 behind) := by
  obtain ⟨lexemes, tokens, run, rendered⟩ := exists_rendering segmenter options source
  refine ⟨lexemes, tokens, run, (tokenize_of_lex run).trans rendered, ?_⟩
  rintro before lexeme after rfl named anonymous
  obtain ⟨rest, placed, entered⟩ := lexFrom_append_inv run
  rw [callParts_of_isNamed entered named] at anonymous ⊢
  have cut : wordRun rest ++ rest.dropWhile isWord = rest := List.takeWhile_append_dropWhile
  have other : lexeme.category ≠ .string := by rcases named with same | same <;> simp [same]
  obtain ⟨earlier, token, later, around, rfl⟩ := exists_around rendered other
  refine ⟨rest.dropWhile isWord, earlier, ?_⟩
  rcases render_of_anonymous entered named anonymous around.here with
    ⟨overlooked, rfl⟩ | ⟨masked, rfl⟩
  · obtain ⟨digits, spelled⟩ := exists_of_isStemWith anonymous
    have first : 's' ∈ wordRun rest := spelled ▸ List.mem_cons_self
    have letters := display_ne_nil first (by decide) segmenter
    refine ⟨_, later, by rw [cut, placed], around, ?_, fun _ => rfl, ?_⟩
    · simp [keepToken, letters]
    · simpa [overlooked] using display_ne_functionPlaceholder segmenter (wordRun rest)
  · refine ⟨_, later, by rw [cut, placed], around, rfl, fun overlooked => absurd overlooked masked, ?_⟩
    simp [masked]

theorem lex_address : lex .decompiler "p=sub_a;".toList =
    .ok [⟨.identifier, ['p'], 0⟩, ⟨.operator, ['='], 1⟩, ⟨.identifier, "sub_a".toList, 2⟩,
      ⟨.punctuation, [';'], 7⟩] :=
  lex_of_lexesAs (by decide) (by decide)

/-- A function whose address is taken is shown in letters when its name has a small one among its
    digits. -/
theorem sub_a_overlooked :
    ∃ lexemes tokens, lex .decompiler "p=sub_a;".toList = .ok lexemes ∧
      tokenize .plain .standard "p=sub_a;".toList = .ok tokens ∧
      ∃ before lexeme after, lexemes = before ++ lexeme :: after ∧ lexeme.category.IsNamed ∧
        isAnonymous (callParts lexeme.text).1 = true ∧
        Segmenter.plain.display "sub_a".toList ∈ tokens ∧
        Segmenter.plain.display "sub_a".toList ≠ functionPlaceholder := by
  obtain ⟨lexemes, tokens, run, rendered, place⟩ :=
    token_of_anonymous .plain .standard "p=sub_a;".toList
  obtain rfl := Except.ok.inj (lex_address.symm.trans run)
  have anonymous : isAnonymous (callParts "sub_a".toList).1 = true := by decide
  refine ⟨_, tokens, run, rendered, [_, _], _, [_], rfl, .inl rfl, anonymous, ?_⟩
  obtain ⟨behind, earlier, token, later, whole, -, rfl, shown, masked⟩ :=
    place [_, _] _ [_] rfl (.inl rfl) anonymous
  have overlooked : Overlooked .decompiler
      [⟨.identifier, ['p'], 0⟩, ⟨.operator, ['='], 1⟩] "sub_a".toList behind := by
    have cut : "p=sub_a".toList ++ [';'] = "p=sub_a".toList ++ behind := whole
    obtain rfl := List.append_cancel_left cut
    exact ⟨⟨'a', List.mem_singleton_self 'a', rfl⟩, rfl, by decide⟩
  obtain rfl := shown overlooked
  exact ⟨List.mem_append_right earlier List.mem_cons_self,
    fun same => masked.mp same overlooked⟩

end SymbolCorpus.PseudoCode
