import SymbolCorpus.Proofs.Lexing

/-! # Where a token comes from

The tokens of a text fall apart at every lexeme that is no string literal: those of the lexemes before
it, its own token unless it has none, and those of the lexemes behind it. Of the lexemes before it a
lexeme's token depends only on the name that they define.
-/

namespace SymbolCorpus.PseudoCode

open Identifier

/-- The name that a lexeme defines, where none is defined yet. -/
def Lexeme.defines (dialect : Dialect) (lexeme : Lexeme) : Option (List Char) :=
  match dialect, lexeme.category with
  | .analysisTool, .nameFunction => some lexeme.text
  | _, _ => none

/-- The name that some lexemes define: in an analysis tool's text the first function that is named,
    in a decompiler's text none. -/
def definedBy (dialect : Dialect) (lexemes : List Lexeme) : Option (List Char) :=
  lexemes.findSome? (·.defines dialect)

theorem definedBy_decompiler (lexemes : List Lexeme) : definedBy .decompiler lexemes = none := by
  simp [definedBy, List.findSome?_eq_none_iff, Lexeme.defines]

/-- The name that a fragment defines, where none is defined yet. -/
def Fragment.defines (dialect : Dialect) : Fragment → Option (List Char)
  | .literal _ => none
  | .single lexeme => lexeme.defines dialect

/-! ## Fragments -/

theorem fragments_of_string {lexeme : Lexeme} (h : lexeme.category = .string) (rest : List Lexeme) :
    fragments (lexeme :: rest) =
      match fragments rest with
      | .literal text :: later => .literal (lexeme.text ++ text) :: later
      | later => .literal lexeme.text :: later := by
  rw [fragments]
  exact if_pos h

theorem fragments_of_other {lexeme : Lexeme} (h : lexeme.category ≠ .string) (rest : List Lexeme) :
    fragments (lexeme :: rest) = .single lexeme :: fragments rest := by
  rw [fragments, if_neg h]

theorem fragments_ne_nil {lexemes : List Lexeme} (some : lexemes ≠ []) : fragments lexemes ≠ [] := by
  obtain ⟨lexeme, rest, rfl⟩ := List.exists_cons_of_ne_nil some
  rw [fragments]
  split
  · split <;> exact List.cons_ne_nil _ _
  · exact List.cons_ne_nil _ _

theorem fragments_of_string_alone {lexeme : Lexeme} (h : lexeme.category = .string)
    {rest : List Lexeme} (ends : ∀ next ∈ rest.head?, next.category ≠ .string) :
    fragments (lexeme :: rest) = .literal lexeme.text :: fragments rest := by
  rw [fragments_of_string h]
  cases rest with
  | nil => rfl
  | cons next rest => rw [fragments_of_other (ends next rfl)]

/-- Lexemes can be parted anywhere but between two literals. -/
theorem fragments_append_of_apart {before after : List Lexeme}
    (apart : ∀ last ∈ before.getLast?, last.category = .string →
      ∀ next ∈ after.head?, next.category ≠ .string) :
    fragments (before ++ after) = fragments before ++ fragments after := by
  induction before with
  | nil => rfl
  | cons first before ih =>
      rw [List.cons_append]
      cases before with
      | nil =>
          by_cases string : first.category = .string
          · rw [List.nil_append, fragments_of_string_alone string (apart first rfl string),
              fragments_of_string_alone string (by simp)]
            rfl
          · rw [fragments_of_other string, fragments_of_other string]
            rfl
      | cons second before =>
          have later := ih (by simpa using apart)
          by_cases string : first.category = .string
          · rw [fragments_of_string string, fragments_of_string string, later]
            cases parts : fragments (second :: before) with
            | nil => exact absurd parts (fragments_ne_nil (List.cons_ne_nil second before))
            | cons part parts => cases part <;> rfl
          · rw [fragments_of_other string, fragments_of_other string, later, List.cons_append]

theorem fragments_append {lexeme : Lexeme} (h : lexeme.category ≠ .string) (before after : List Lexeme) :
    fragments (before ++ lexeme :: after) = fragments before ++ .single lexeme :: fragments after := by
  have other : ∀ next ∈ (lexeme :: after).head?, next.category ≠ .string := by simpa using h
  rw [fragments_append_of_apart fun _ _ _ => other, fragments_of_other h]

theorem findSome?_fragments (dialect : Dialect) (lexemes : List Lexeme) :
    (fragments lexemes).findSome? (·.defines dialect) = definedBy dialect lexemes := by
  unfold definedBy
  induction lexemes with
  | nil => rfl
  | cons lexeme rest ih =>
      -- Literals define nothing, so joining them loses no definition.
      by_cases string : lexeme.category = .string
      · have nothing : lexeme.defines dialect = none := by simp [Lexeme.defines, string]
        rw [fragments_of_string string, List.findSome?_cons, nothing, ← ih]
        cases fragments rest with
        | nil => rfl
        | cons part parts => cases part <;> rfl
      · rw [fragments_of_other string, List.findSome?_cons, List.findSome?_cons, ih]
        rfl

/-! ## Rendering -/

theorem renderFunction_defines (segmenter : Segmenter) (options : TokenOptions)
    (defined : Option (List Char)) (name : List Char) :
    (renderFunction segmenter options defined name).2 = defined.or (some name) := by
  unfold renderFunction
  cases defined with
  | none => rfl
  | some definition => dsimp only; split <;> rfl

theorem renderLexeme_defines {segmenter : Segmenter} {options : TokenOptions}
    {defined definition token : Option (List Char)} {lexeme : Lexeme}
    (h : renderLexeme segmenter options defined lexeme = .ok (token, definition)) :
    definition = defined.or (lexeme.defines options.dialect) := by
  obtain ⟨dialect, keepStrings, keepCalls⟩ := options
  obtain ⟨category, text, offset⟩ := lexeme
  cases dialect <;> cases category <;>
    simp only [renderLexeme, Except.ok.injEq, Prod.mk.injEq, reduceCtorEq] at h <;>
    simp [Lexeme.defines, ← h.2, renderFunction_defines]

theorem keepToken_append (token : Option (List Char)) (earlier later : List (List Char)) :
    keepToken token (earlier ++ later) = keepToken token earlier ++ later := by
  cases token with
  | none => rfl
  | some text => unfold keepToken; dsimp only; split <;> rfl

section Rendering

variable {segmenter : Segmenter} {options : TokenOptions} {defined definition : Option (List Char)}

theorem renderFragments_literal (text : List Char) (rest : List Fragment) :
    renderFragments segmenter options defined (.literal text :: rest) =
      (renderLiteral options text :: ·) <$> renderFragments segmenter options defined rest := by
  rw [renderFragments, bind_pure_comp]

theorem renderFragments_single {token : Option (List Char)} {lexeme : Lexeme}
    (shown : renderLexeme segmenter options defined lexeme = .ok (token, definition))
    (rest : List Fragment) :
    renderFragments segmenter options defined (.single lexeme :: rest) =
      keepToken token <$> renderFragments segmenter options definition rest := by
  rw [renderFragments, shown]
  change (renderFragments segmenter options definition rest >>= fun tokens => pure _) = _
  rw [bind_pure_comp]

theorem renderFragments_single_inv {lexeme : Lexeme} {rest : List Fragment}
    {tokens : List (List Char)}
    (h : renderFragments segmenter options defined (.single lexeme :: rest) = .ok tokens) :
    ∃ token definition later, renderLexeme segmenter options defined lexeme = .ok (token, definition) ∧
      renderFragments segmenter options definition rest = .ok later ∧
      keepToken token later = tokens := by
  cases shown : renderLexeme segmenter options defined lexeme with
  | error _ =>
      rw [renderFragments, shown] at h
      cases h
  | ok rendered =>
      rw [renderFragments_single shown] at h
      obtain ⟨later, run, same⟩ := map_eq_ok h
      exact ⟨rendered.1, rendered.2, later, rfl, run, same⟩

/-- A rendering can be entered behind any fragments: it goes on with the name that they define. -/
theorem renderFragments_append_inv {left right : List Fragment} {tokens : List (List Char)}
    (h : renderFragments segmenter options defined (left ++ right) = .ok tokens) :
    ∃ earlier later, renderFragments segmenter options defined left = .ok earlier ∧
      renderFragments segmenter options
        (defined.or (left.findSome? (·.defines options.dialect))) right = .ok later ∧
      earlier ++ later = tokens := by
  induction left generalizing defined tokens with
  | nil => exact ⟨[], tokens, by rw [renderFragments], by simpa using h, rfl⟩
  | cons part left ih =>
      rw [List.cons_append] at h
      rw [List.findSome?_cons]
      cases part with
      | literal text =>
          rw [renderFragments_literal] at h
          obtain ⟨inner, run, rfl⟩ := map_eq_ok h
          obtain ⟨earlier, later, before, behind, rfl⟩ := ih run
          refine ⟨renderLiteral options text :: earlier, later, ?_, behind, rfl⟩
          rw [renderFragments_literal, before]
          rfl
      | single lexeme =>
          obtain ⟨token, definition, inner, shown, run, rfl⟩ := renderFragments_single_inv h
          obtain ⟨earlier, later, before, behind, rfl⟩ := ih run
          refine ⟨keepToken token earlier, later, ?_, ?_, (keepToken_append token earlier later).symm⟩
          · rw [renderFragments_single shown, before]
            rfl
          · rw [renderLexeme_defines shown, Option.or_assoc] at behind
            rw [Fragment.defines]
            cases nameless : lexeme.defines options.dialect with
            | none => rwa [nameless] at behind
            | some name => rwa [nameless] at behind

/-- What the lexemes before a lexeme, the lexeme itself and those behind it become. -/
structure Around (segmenter : Segmenter) (options : TokenOptions) (before : List Lexeme)
    (lexeme : Lexeme) (after : List Lexeme) (earlier : List (List Char))
    (token : Option (List Char)) (later : List (List Char)) : Prop where
  left : renderFragments segmenter options none (fragments before) = .ok earlier
  here : renderLexeme segmenter options (definedBy options.dialect before) lexeme =
    .ok (token, definedBy options.dialect (before ++ [lexeme]))
  right : renderFragments segmenter options (definedBy options.dialect (before ++ [lexeme]))
    (fragments after) = .ok later

/-- The tokens fall apart at a lexeme that is no string literal. -/
theorem exists_around {before after : List Lexeme} {lexeme : Lexeme} {tokens : List (List Char)}
    (h : renderFragments segmenter options none (fragments (before ++ lexeme :: after)) = .ok tokens)
    (other : lexeme.category ≠ .string) :
    ∃ earlier token later, Around segmenter options before lexeme after earlier token later ∧
      earlier ++ keepToken token later = tokens := by
  rw [fragments_append other] at h
  obtain ⟨earlier, inner, left, right, rfl⟩ := renderFragments_append_inv h
  rw [findSome?_fragments, Option.none_or] at right
  obtain ⟨token, definition, later, shown, behind, rfl⟩ := renderFragments_single_inv right
  have same : definition = definedBy options.dialect (before ++ [lexeme]) := by
    rw [renderLexeme_defines shown, definedBy, definedBy, List.findSome?_append]
    simp
  exact ⟨earlier, token, later, ⟨left, same ▸ shown, same ▸ behind⟩, rfl⟩

theorem tokenize_of_lex {text : List Char} {lexemes : List Lexeme}
    (h : lex options.dialect text = .ok lexemes) :
    tokenize segmenter options text = renderFragments segmenter options none (fragments lexemes) := by
  rw [tokenize, h]
  rfl

end Rendering

theorem exists_rendering (segmenter : Segmenter) (options : TokenOptions) (text : List Char) :
    ∃ lexemes tokens, lex options.dialect text = .ok lexemes ∧
      renderFragments segmenter options none (fragments lexemes) = .ok tokens := by
  obtain ⟨lexemes, run⟩ := lexFrom_total options.dialect.firstMatch_total 0 text
  have accepted := @lex_accepted options.dialect text lexemes run
  obtain ⟨tokens, rendered⟩ := renderFragments_total segmenter options.keepStrings options.keepCalls
    (fragments lexemes) (fun lexeme member => accepted lexeme (mem_of_single_mem_fragments member))
    none
  exact ⟨lexemes, tokens, run, rendered⟩

end SymbolCorpus.PseudoCode
