import Mathlib.Data.List.SplitBy
import SymbolCorpus.Proofs.Tokens

/-! # String literals that follow one another

Lexemes fall into the longest runs of string literals and single other lexemes. Every run of literals
has one token, in its place, and every other lexeme one or none; whether strings are shown decides
what the token of a run is and nothing else. The same tokens come from one pass over the lexemes that
holds the literals read last back until a lexeme of another kind or the end shows that they are all.
-/

namespace SymbolCorpus.PseudoCode

open Identifier

def bothStrings (a b : Lexeme) : Bool := a.category = .string && b.category = .string

/-- The longest runs of string literals, and the other lexemes one by one. -/
def lexemeRuns (lexemes : List Lexeme) : List (List Lexeme) := lexemes.splitBy bothStrings

/-- What one run adds to the tokens. -/
inductive Emits (segmenter : Segmenter) (options : TokenOptions) :
    List Lexeme → List (List Char) → Prop where
  /-- Literals have one token together. -/
  | literals {run : List Lexeme} (some : run ≠ [])
      (strings : ∀ lexeme ∈ run, lexeme.category = .string) :
      Emits segmenter options run [renderLiteral options (cover run)]
  /-- A lexeme of another kind has its own token, or none. -/
  | other {lexeme : Lexeme} {defined definition token : Option (List Char)}
      (other : lexeme.category ≠ .string)
      (shown : renderLexeme segmenter options defined lexeme = .ok (token, definition)) :
      Emits segmenter options [lexeme] (keepToken token [])

/-- The tokens of a run when no strings are shown. -/
def hideLiterals (run : List Lexeme) (tokens : List (List Char)) : List (List Char) :=
  if run.all (·.category = .string) then [stringPlaceholder] else tokens

/-- The tokens of the lexemes read one after another. What is pending is the text of the literals read
    last; it is shown before the next lexeme of another kind and at the end. -/
def readOnce (segmenter : Segmenter) (options : TokenOptions) :
    Option (List Char) → Option (List Char) → List Lexeme → Except TokenizeError (List (List Char))
  | pending, _, [] => .ok (pending.toList.map (renderLiteral options))
  | pending, defined, lexeme :: rest =>
      if lexeme.category = .string then
        readOnce segmenter options (some (pending.getD [] ++ lexeme.text)) defined rest
      else do
        let (token, definition) ← renderLexeme segmenter options defined lexeme
        let later ← readOnce segmenter options none definition rest
        pure (pending.toList.map (renderLiteral options) ++ keepToken token later)

/-! ## Runs and fragments -/

/-- A run and the fragment that it becomes. -/
inductive Fragment.Joins : List Lexeme → Fragment → Prop where
  | literals {run : List Lexeme} (some : run ≠ [])
      (strings : ∀ lexeme ∈ run, lexeme.category = .string) :
      Joins run (.literal (cover run))
  | other {lexeme : Lexeme} (other : lexeme.category ≠ .string) : Joins [lexeme] (.single lexeme)

theorem fragments_strings {run : List Lexeme} (some : run ≠ [])
    (strings : ∀ lexeme ∈ run, lexeme.category = .string) :
    fragments run = [.literal (cover run)] := by
  induction run with
  | nil => exact absurd rfl some
  | cons lexeme run ih =>
      rw [List.forall_mem_cons] at strings
      cases run with
      | nil =>
          rw [fragments_of_string strings.1]
          simp [fragments]
      | cons next run =>
          rw [fragments_of_string strings.1, ih (List.cons_ne_nil next run) strings.2]
          rfl

theorem strings_or_single {run : List Lexeme} (some : run ≠ [])
    (chain : run.IsChain fun a b => bothStrings a b) :
    (∀ lexeme ∈ run, lexeme.category = .string) ∨
      ∃ lexeme, run = [lexeme] ∧ lexeme.category ≠ .string := by
  induction run with
  | nil => exact absurd rfl some
  | cons lexeme run ih =>
      cases run with
      | nil =>
          by_cases string : lexeme.category = .string
          · exact .inl (by simpa using string)
          · exact .inr ⟨lexeme, rfl, string⟩
      | cons next run =>
          obtain ⟨both, later⟩ := List.isChain_cons_cons.mp chain
          simp only [bothStrings, Bool.and_eq_true, decide_eq_true_eq] at both
          rcases ih (List.cons_ne_nil next run) later with strings | ⟨single, same, other⟩
          · exact .inl (List.forall_mem_cons.mpr ⟨both.1, strings⟩)
          · exact absurd ((List.cons.inj same).1 ▸ both.2) other

theorem exists_joins {run : List Lexeme} (some : run ≠ [])
    (chain : run.IsChain fun a b => bothStrings a b) :
    ∃ part, fragments run = [part] ∧ Fragment.Joins run part := by
  rcases strings_or_single some chain with strings | ⟨lexeme, rfl, other⟩
  · exact ⟨_, fragments_strings some strings, .literals some strings⟩
  · exact ⟨_, fragments_of_other other [], .other other⟩

theorem forall₂_joins (lexemes : List Lexeme) :
    List.Forall₂ Fragment.Joins (lexemeRuns lexemes) (fragments lexemes) := by
  have nonempty : ∀ run ∈ lexemeRuns lexemes, run ≠ [] := fun run => List.ne_nil_of_mem_splitBy
  have chains : ∀ run ∈ lexemeRuns lexemes, run.IsChain fun a b => bothStrings a b :=
    fun run => List.isChain_of_mem_splitBy
  have apart := List.isChain_getLast_head_splitBy bothStrings lexemes
  have whole := List.flatten_splitBy bothStrings lexemes
  change (lexemeRuns lexemes).IsChain _ at apart
  change (lexemeRuns lexemes).flatten = lexemes at whole
  generalize lexemeRuns lexemes = runs at nonempty chains apart whole
  subst whole
  induction runs with
  | nil => exact .nil
  | cons run runs ih =>
      rw [List.forall_mem_cons] at nonempty chains
      rw [List.isChain_cons] at apart
      obtain ⟨part, here, joins⟩ := exists_joins nonempty.1 chains.1
      have parted : ∀ last ∈ run.getLast?, last.category = .string →
          ∀ next ∈ runs.flatten.head?, next.category ≠ .string := by
        intro last atEnd string next atStart alsoString
        cases runs with
        | nil => simp at atStart
        | cons other runs =>
            obtain ⟨first, more, rfl⟩ :=
              List.exists_cons_of_ne_nil (nonempty.2 other List.mem_cons_self)
            obtain ⟨filled, _, ends⟩ := apart.1 _ rfl
            obtain rfl : first = next := by simpa using atStart
            obtain rfl : run.getLast filled = last := by
              simpa [List.getLast?_eq_some_getLast filled] using atEnd
            simp [bothStrings, string, alsoString] at ends
      rw [List.flatten_cons, fragments_append_of_apart parted, here]
      exact .cons joins (ih nonempty.2 chains.2 apart.2)

/-! ## Rendering with and without strings -/

section Rendering

variable {segmenter : Segmenter} {dialect : Dialect} {keepCalls : Bool}

theorem renderLexeme_keepStrings (keepStrings other : Bool) (defined : Option (List Char))
    (lexeme : Lexeme) :
    renderLexeme segmenter ⟨dialect, keepStrings, keepCalls⟩ defined lexeme =
      renderLexeme segmenter ⟨dialect, other, keepCalls⟩ defined lexeme := rfl

theorem hideLiterals_of_strings {run : List Lexeme}
    (strings : ∀ lexeme ∈ run, lexeme.category = .string) (tokens : List (List Char)) :
    hideLiterals run tokens = [stringPlaceholder] := by
  rw [hideLiterals, if_pos (by simpa using strings)]

theorem hideLiterals_of_other {lexeme : Lexeme} (other : lexeme.category ≠ .string)
    (tokens : List (List Char)) : hideLiterals [lexeme] tokens = tokens := by
  rw [hideLiterals, if_neg (by simpa using other)]

/-- A rendering with strings shown falls apart into the tokens of the runs, and without strings it
    goes the same way. -/
theorem exists_outputs {runs : List (List Lexeme)} {parts : List Fragment}
    (joins : List.Forall₂ Fragment.Joins runs parts) {defined : Option (List Char)}
    {tokens : List (List Char)}
    (h : renderFragments segmenter ⟨dialect, true, keepCalls⟩ defined parts = .ok tokens) :
    ∃ outputs, List.Forall₂ (Emits segmenter ⟨dialect, true, keepCalls⟩) runs outputs ∧
      outputs.flatten = tokens ∧
      renderFragments segmenter ⟨dialect, false, keepCalls⟩ defined parts =
        .ok (List.zipWith hideLiterals runs outputs).flatten := by
  -- Both renderings have the same name defined at every step.
  induction joins generalizing defined tokens with
  | nil =>
      obtain rfl := Except.ok.inj h
      exact ⟨[], .nil, rfl, rfl⟩
  | cons join joins ih =>
      cases join with
      | literals some strings =>
          rw [renderFragments_literal] at h
          obtain ⟨later, run, rfl⟩ := map_eq_ok h
          obtain ⟨outputs, emits, rfl, hidden⟩ := ih run
          refine ⟨_, .cons (.literals some strings) emits, rfl, ?_⟩
          rw [renderFragments_literal, hidden, List.zipWith_cons_cons, hideLiterals_of_strings strings]
          rfl
      | other other =>
          obtain ⟨token, definition, later, shown, run, rfl⟩ := renderFragments_single_inv h
          obtain ⟨outputs, emits, rfl, hidden⟩ := ih run
          refine ⟨_, .cons (.other other shown) emits, (keepToken_append token [] _).symm, ?_⟩
          rw [renderLexeme_keepStrings true false] at shown
          rw [renderFragments_single shown, hidden, List.zipWith_cons_cons, hideLiterals_of_other other,
            List.flatten_cons, ← keepToken_append]
          rfl

end Rendering

/-! ## One pass -/

/-- Fragments behind pending literals, which a literal at their start joins. -/
def withPending : Option (List Char) → List Fragment → List Fragment
  | none, parts => parts
  | some text, .literal more :: parts => .literal (text ++ more) :: parts
  | some text, parts => .literal text :: parts

theorem withPending_string {lexeme : Lexeme} (string : lexeme.category = .string)
    (pending : Option (List Char)) (rest : List Lexeme) :
    withPending pending (fragments (lexeme :: rest)) =
      withPending (some (pending.getD [] ++ lexeme.text)) (fragments rest) := by
  rw [fragments_of_string string]
  generalize fragments rest = parts
  rcases parts with _ | ⟨⟨more⟩ | single, parts⟩ <;> cases pending <;>
    simp [withPending, List.append_assoc]

theorem renderFragments_withPending_single {segmenter : Segmenter} {options : TokenOptions}
    {defined : Option (List Char)} (pending : Option (List Char)) (lexeme : Lexeme)
    (parts : List Fragment) :
    renderFragments segmenter options defined (withPending pending (.single lexeme :: parts)) =
      (pending.toList.map (renderLiteral options) ++ ·) <$>
        renderFragments segmenter options defined (.single lexeme :: parts) := by
  cases pending with
  | none => exact (id_map _).symm
  | some text => exact renderFragments_literal text _

/-- Reading the lexemes once gives the tokens of the fragments, the first of which begins with the
    literals that are pending. -/
theorem readOnce_eq (segmenter : Segmenter) (options : TokenOptions) (lexemes : List Lexeme) :
    ∀ pending defined, readOnce segmenter options pending defined lexemes =
      renderFragments segmenter options defined (withPending pending (fragments lexemes)) := by
  induction lexemes with
  | nil =>
      intro pending defined
      cases pending <;> rfl
  | cons lexeme rest ih =>
      intro pending defined
      by_cases string : lexeme.category = .string
      · rw [readOnce, if_pos string, ih, withPending_string string]
      · rw [readOnce, if_neg string, fragments_of_other string, renderFragments_withPending_single]
        cases shown : renderLexeme segmenter options defined lexeme with
        | error problem =>
            rw [renderFragments, shown]
            rfl
        | ok rendered =>
            rw [renderFragments_single shown, ← comp_map]
            change (readOnce segmenter options none rendered.2 rest >>= fun later => pure _) = _
            rw [ih, bind_pure_comp]
            rfl

/-- Every run of literals has exactly one token, in its place, every other lexeme one at most, and
    without strings the tokens are the same but for placeholders in place of those of the runs. It
    makes no difference whether literals are joined first or held back in one pass. -/
theorem tokenize_runs (segmenter : Segmenter) (dialect : Dialect) (keepCalls : Bool)
    (text : List Char) :
    ∃ lexemes outputs, lex dialect text = .ok lexemes ∧
      List.Forall₂ (Emits segmenter ⟨dialect, true, keepCalls⟩) (lexemeRuns lexemes) outputs ∧
      tokenize segmenter ⟨dialect, true, keepCalls⟩ text = .ok outputs.flatten ∧
      tokenize segmenter ⟨dialect, false, keepCalls⟩ text =
        .ok (List.zipWith hideLiterals (lexemeRuns lexemes) outputs).flatten ∧
      ∀ keepStrings, readOnce segmenter ⟨dialect, keepStrings, keepCalls⟩ none none lexemes =
        tokenize segmenter ⟨dialect, keepStrings, keepCalls⟩ text := by
  obtain ⟨lexemes, tokens, run, rendered⟩ :=
    exists_rendering segmenter ⟨dialect, true, keepCalls⟩ text
  obtain ⟨outputs, emits, rfl, hidden⟩ := exists_outputs (forall₂_joins lexemes) rendered
  have lexed : ∀ keepStrings, tokenize segmenter ⟨dialect, keepStrings, keepCalls⟩ text =
      renderFragments segmenter ⟨dialect, keepStrings, keepCalls⟩ none (fragments lexemes) :=
    fun _ => tokenize_of_lex run
  refine ⟨lexemes, outputs, run, emits, (lexed true).trans rendered, (lexed false).trans hidden,
    fun keepStrings => ?_⟩
  rw [readOnce_eq, lexed]
  rfl

end SymbolCorpus.PseudoCode
