import SymbolCorpus.Proofs.InStep

/-! # The name that a text defines

The first function that an analysis tool's text names is the one it defines, and the tokens say
nothing about its name: a text that has another name in its place, wherever it stands as a name, has
the same tokens. From its first function on a rendering knows a name, and two renderings of which
each knows its own stay in step.
-/

namespace SymbolCorpus.PseudoCode

open Identifier

/-- A lexeme and what becomes of it when one name is given in place of another, which no other lexeme
    has for its name. -/
structure Lexeme.Renamed (name given : List Char) (lexeme renamed : Lexeme) : Prop where
  category : renamed.category = lexeme.category
  text : renamed.text = if lexeme.category.IsNamed ∧ lexeme.text = name then given else lexeme.text
  fresh : renamed.category.IsNamed → renamed.text = given → lexeme.text = name

/-- Two lists of lexemes that differ in the name of the function they define only. Where this name is
    still to come, no lexeme has it for an identifier. -/
structure Redefined (name given : List Char) (lexemes renamed : List Lexeme) : Prop where
  pairs : List.Forall₂ (Lexeme.Renamed name given) lexemes renamed
  defines : definedBy .analysisTool lexemes = some name
  late : ∀ lexeme ∈ lexemes.takeWhile (·.category ≠ .nameFunction),
    lexeme.category = .identifier → lexeme.text ≠ name

/-! ## Lexemes -/

namespace Lexeme.Renamed

variable {name given : List Char} {lexeme renamed : Lexeme} (h : Renamed name given lexeme renamed)
include h

theorem text_of_other (other : ¬(lexeme.category.IsNamed ∧ lexeme.text = name)) :
    renamed.text = lexeme.text := by
  rw [h.text, if_neg other]

theorem text_iff (named : lexeme.category.IsNamed) : lexeme.text = name ↔ renamed.text = given := by
  constructor
  · intro same
    rw [h.text, if_pos ⟨named, same⟩]
  · exact h.fresh (h.category ▸ named)

end Lexeme.Renamed

/-- What a name becomes depends only on whether it is the one defined. -/
theorem token_of_named {segmenter : Segmenter} {keepStrings keepCalls : Bool} {name : List Char}
    {lexeme : Lexeme} (named : lexeme.category.IsNamed) :
    (renderLexeme segmenter ⟨.analysisTool, keepStrings, keepCalls⟩ (some name) lexeme).map Prod.fst =
      .ok (some (if lexeme.text = name ∨ lexeme.category = .nameFunction ∧
        (isAnonymous lexeme.text = true ∨ keepCalls = false) then functionPlaceholder
        else segmenter.display lexeme.text)) := by
  obtain ⟨category, text, offset⟩ := lexeme
  rcases named with rfl | rfl
  · have asked : some name = some text ↔ text = name := by
      rw [Option.some.injEq]
      exact eq_comm
    simp [renderLexeme, Except.map, asked]
  · have asked : (decide (name = text) || isAnonymous text || !keepCalls) = true ↔
        text = name ∨ isAnonymous text = true ∨ keepCalls = false := by
      rw [Bool.or_eq_true, Bool.or_eq_true, decide_eq_true_eq, Bool.not_eq_true', or_assoc]
      exact or_congr_left eq_comm
    simp only [renderLexeme, renderFunction, Except.map, asked, true_and]
    split <;> rfl

theorem inStep_renamed (segmenter : Segmenter) (keepStrings keepCalls : Bool) (name given : List Char) :
    InStep segmenter ⟨.analysisTool, keepStrings, keepCalls⟩
      (fun defined known => defined = some name ∧ known = some given)
      (Lexeme.Renamed name given) where
  category pair := pair.category
  string pair string := pair.text_of_other (by simp [string, Category.IsNamed])
  names := by
    rintro _ _ lexeme renamed ⟨rfl, rfl⟩ -
    exact ⟨rfl, rfl⟩
  token := by
    rintro _ _ lexeme renamed ⟨rfl, rfl⟩ pair
    by_cases named : lexeme.category.IsNamed
    · rw [token_of_named named, token_of_named (pair.category ▸ named), pair.category]
      by_cases own : lexeme.text = name
      · rw [if_pos (.inl own), if_pos (.inl ((pair.text_iff named).mp own))]
      · have other : renamed.text ≠ given := fun same => own ((pair.text_iff named).mpr same)
        rw [pair.text_of_other fun both => own both.2] at other ⊢
        simp only [own, other, false_or]
    · have same := pair.text_of_other fun both => named both.1
      have sort := pair.category
      obtain ⟨_, _, offset⟩ := lexeme
      obtain ⟨category, text, start⟩ := renamed
      dsimp only at same sort named
      subst same sort
      cases category
      case identifier | nameFunction => exact absurd (by decide) named
      all_goals rfl

/-! ## Texts -/

theorem Redefined.exists_function {name given : List Char} {lexemes renamed : List Lexeme}
    (h : Redefined name given lexemes renamed) :
    ∃ before function after others other rest,
      lexemes = before ++ function :: after ∧ renamed = others ++ other :: rest ∧
      List.Forall₂ Lexeme.Alike before others ∧
      (∀ lexeme ∈ before, lexeme.category ≠ .nameFunction) ∧
      (∀ lexeme ∈ others, lexeme.category ≠ .nameFunction) ∧
      (function.category = .nameFunction ∧ function.text = name) ∧
      (other.category = .nameFunction ∧ other.text = given) ∧
      List.Forall₂ (Lexeme.Renamed name given) after rest := by
  obtain ⟨pairs, defines, late⟩ := h
  induction pairs with
  | nil => cases defines
  | @cons lexeme other lexemes others pair pairs ih =>
      by_cases function : lexeme.category = .nameFunction
      · have text : lexeme.text = name := by
          simpa [definedBy, Lexeme.defines, function] using defines
        exact ⟨[], lexeme, lexemes, [], other, others, rfl, rfl, .nil, by simp, by simp, ⟨function, text⟩,
          ⟨pair.category.trans function, (pair.text_iff (.inr function)).mp text⟩, pairs⟩
      · have undefining : lexeme.defines .analysisTool = none := by simp [Lexeme.defines, function]
        rw [definedBy, List.findSome?_cons, undefining] at defines
        rw [List.takeWhile_cons_of_pos (by simpa using function), List.forall_mem_cons] at late
        obtain ⟨before, first, after, earlier, second, rest, rfl, rfl, alike, plain, plainOther, here,
          there, later⟩ := ih defines late.2
        have same : other.text = lexeme.text := by
          refine pair.text_of_other ?_
          rintro ⟨identifier | impossible, own⟩
          · exact late.1 identifier own
          · exact function impossible
        exact ⟨lexeme :: before, first, after, other :: earlier, second, rest, rfl, rfl,
          .cons ⟨pair.category, same⟩ alike, List.forall_mem_cons.mpr ⟨function, plain⟩,
          List.forall_mem_cons.mpr ⟨pair.category ▸ function, plainOther⟩, here, there, later⟩

theorem definedBy_eq_none {dialect : Dialect} {lexemes : List Lexeme}
    (h : ∀ lexeme ∈ lexemes, lexeme.category ≠ .nameFunction) : definedBy dialect lexemes = none := by
  rw [definedBy, List.findSome?_eq_none_iff]
  intro lexeme member
  cases dialect <;> simp [Lexeme.defines, h lexeme member]

/-- The function that a text defines is masked, and the lexemes behind it know its name. -/
theorem exists_tokens_around_function {segmenter : Segmenter} {keepStrings keepCalls : Bool}
    {before after : List Lexeme} {function : Lexeme} {tokens : List (List Char)}
    (rendered : renderFragments segmenter ⟨.analysisTool, keepStrings, keepCalls⟩ none
      (fragments (before ++ function :: after)) = .ok tokens)
    (plain : ∀ lexeme ∈ before, lexeme.category ≠ .nameFunction)
    (isFunction : function.category = .nameFunction) :
    ∃ earlier later,
      renderFragments segmenter ⟨.analysisTool, keepStrings, keepCalls⟩ none (fragments before) =
        .ok earlier ∧
      renderFragments segmenter ⟨.analysisTool, keepStrings, keepCalls⟩ (some function.text)
        (fragments after) = .ok later ∧
      earlier ++ functionPlaceholder :: later = tokens := by
  obtain ⟨earlier, token, later, around, rfl⟩ := exists_around rendered (by simp [isFunction])
  have shown := around.here
  rw [definedBy_eq_none plain] at shown
  simp only [renderLexeme, isFunction, renderFunction, Except.ok.injEq, Prod.mk.injEq] at shown
  have right := around.right
  rw [← shown.2] at right
  exact ⟨earlier, later, around.left, right, by rw [← shown.1]; rfl⟩

/-- The name of the function that a text defines makes no difference to its tokens. -/
theorem tokenize_of_redefined (segmenter : Segmenter) (keepStrings keepCalls : Bool)
    {name given source renamed : List Char} {lexemes others : List Lexeme}
    (run : lex .analysisTool source = .ok lexemes) (runRenamed : lex .analysisTool renamed = .ok others)
    (h : Redefined name given lexemes others) :
    ∃ tokens, tokenize segmenter ⟨.analysisTool, keepStrings, keepCalls⟩ source = .ok tokens ∧
      tokenize segmenter ⟨.analysisTool, keepStrings, keepCalls⟩ renamed = .ok tokens := by
  obtain ⟨_, tokens, runAgain, rendered⟩ :=
    exists_rendering segmenter ⟨.analysisTool, keepStrings, keepCalls⟩ source
  obtain rfl := Except.ok.inj (run.symm.trans runAgain)
  obtain ⟨_, tokensRenamed, runAgain, renderedRenamed⟩ :=
    exists_rendering segmenter ⟨.analysisTool, keepStrings, keepCalls⟩ renamed
  obtain rfl := Except.ok.inj (runRenamed.symm.trans runAgain)
  refine ⟨tokens, (tokenize_of_lex run).trans rendered, ?_⟩
  rw [tokenize_of_lex runRenamed, renderedRenamed]
  obtain ⟨before, function, after, earlier, other, rest, rfl, rfl, alike, plain, plainOther,
    ⟨isFunction, text⟩, ⟨isOther, textOther⟩, pairs⟩ := h.exists_function
  obtain ⟨left, right, leftRun, rightRun, rfl⟩ :=
    exists_tokens_around_function rendered plain isFunction
  obtain ⟨leftOther, rightOther, leftOtherRun, rightOtherRun, rfl⟩ :=
    exists_tokens_around_function renderedRenamed plainOther isOther
  -- Before the function nothing is defined, and behind it each text knows its own name.
  have same := inStep_alike segmenter ⟨.analysisTool, keepStrings, keepCalls⟩
  rw [same.renderFragments (same.fragments alike) rfl, leftOtherRun] at leftRun
  have knowing := inStep_renamed segmenter keepStrings keepCalls name given
  rw [text] at rightRun
  rw [knowing.renderFragments (knowing.fragments pairs) ⟨rfl, rfl⟩, ← textOther, rightOtherRun]
    at rightRun
  rw [Except.ok.inj leftRun, Except.ok.inj rightRun]

/-- The lexemes of a function that passes another one its own address. -/
def selfPassing (name : List Char) (width : Nat) : List Lexeme :=
  [⟨.nameFunction, name, 0⟩, ⟨.punctuation, ['('], width⟩, ⟨.nameFunction, ['g'], width + 1⟩,
    ⟨.punctuation, ['('], width + 2⟩, ⟨.identifier, name, width + 3⟩,
    ⟨.punctuation, [')'], width + width + 3⟩, ⟨.punctuation, [')'], width + width + 4⟩]

/-- A name with letters is as good as one that stands for no name. -/
theorem tokenize_selfPassing :
    lex .analysisTool "m(g(m))".toList = .ok (selfPassing ['m'] 1) ∧
      lex .analysisTool "sub_a(g(sub_a))".toList = .ok (selfPassing "sub_a".toList 5) ∧
      Redefined ['m'] "sub_a".toList (selfPassing ['m'] 1) (selfPassing "sub_a".toList 5) ∧
      ∃ tokens, tokenize .plain ⟨.analysisTool, true, true⟩ "m(g(m))".toList = .ok tokens ∧
        tokenize .plain ⟨.analysisTool, true, true⟩ "sub_a(g(sub_a))".toList = .ok tokens := by
  have run : lex .analysisTool "m(g(m))".toList = .ok (selfPassing ['m'] 1) :=
    lex_of_lexesAs (by decide) (by decide)
  have runRenamed : lex .analysisTool "sub_a(g(sub_a))".toList = .ok (selfPassing "sub_a".toList 5) :=
    lex_of_lexesAs (by decide) (by decide)
  have h : Redefined ['m'] "sub_a".toList (selfPassing ['m'] 1) (selfPassing "sub_a".toList 5) := by
    have own (category : Category) (offset start : Nat) (named : category.IsNamed) :
        Lexeme.Renamed ['m'] "sub_a".toList ⟨category, ['m'], offset⟩
          ⟨category, "sub_a".toList, start⟩ :=
      ⟨rfl, by simp [named], fun _ _ => rfl⟩
    have other (category : Category) (c : Char) (offset start : Nat) (differs : c ≠ 'm') :
        Lexeme.Renamed ['m'] "sub_a".toList ⟨category, [c], offset⟩ ⟨category, [c], start⟩ :=
      ⟨rfl, by simp [differs], by simp⟩
    exact ⟨.cons (own _ _ _ (.inr rfl)) (.cons (other _ _ _ _ (by decide))
      (.cons (other _ _ _ _ (by decide)) (.cons (other _ _ _ _ (by decide))
      (.cons (own _ _ _ (.inl rfl)) (.cons (other _ _ _ _ (by decide))
      (.cons (other _ _ _ _ (by decide)) .nil)))))), rfl, by decide⟩
  exact ⟨run, runRenamed, h, tokenize_of_redefined .plain true true run runRenamed h⟩

end SymbolCorpus.PseudoCode
