import SymbolCorpus.Proofs.Gaps
import SymbolCorpus.Proofs.Tokens

/-! # Texts in step

Two lists of lexemes that correspond one by one have the same tokens when each pair of lexemes has,
and when the names defined before them go on to correspond. So it makes no difference how many octets
precede a text, and white space in front of it leaves no trace.
-/

namespace SymbolCorpus.PseudoCode

open Text Identifier

/-- Related lexemes are rendered alike whenever the names defined so far are related, and these stay
    related behind them. -/
structure InStep (segmenter : Segmenter) (options : TokenOptions)
    (Names : Option (List Char) → Option (List Char) → Prop) (Pairs : Lexeme → Lexeme → Prop) :
    Prop where
  category : ∀ {lexeme other}, Pairs lexeme other → other.category = lexeme.category
  string : ∀ {lexeme other}, Pairs lexeme other → lexeme.category = .string →
    other.text = lexeme.text
  token : ∀ {defined known lexeme other}, Names defined known → Pairs lexeme other →
    (renderLexeme segmenter options defined lexeme).map Prod.fst =
      (renderLexeme segmenter options known other).map Prod.fst
  names : ∀ {defined known lexeme other}, Names defined known → Pairs lexeme other →
    Names (defined.or (lexeme.defines options.dialect)) (known.or (other.defines options.dialect))

/-- Literals of one text, or related lexemes. -/
inductive Fragment.Paired (Pairs : Lexeme → Lexeme → Prop) : Fragment → Fragment → Prop where
  | literal (text : List Char) : Paired Pairs (.literal text) (.literal text)
  | single {lexeme other : Lexeme} : Pairs lexeme other → Paired Pairs (.single lexeme) (.single other)

namespace InStep

variable {segmenter : Segmenter} {options : TokenOptions}
  {Names : Option (List Char) → Option (List Char) → Prop} {Pairs : Lexeme → Lexeme → Prop}
  (h : InStep segmenter options Names Pairs)
include h

theorem fragments {lexemes others : List Lexeme} (pairs : List.Forall₂ Pairs lexemes others) :
    List.Forall₂ (Fragment.Paired Pairs) (fragments lexemes) (fragments others) := by
  induction pairs with
  | nil => exact .nil
  | @cons lexeme other lexemes others pair pairs ih =>
      have same := h.category pair
      by_cases string : lexeme.category = .string
      · rw [fragments_of_string string, fragments_of_string (same.trans string), h.string pair string]
        generalize PseudoCode.fragments lexemes = parts at ih
        generalize PseudoCode.fragments others = otherParts at ih
        cases ih with
        | nil => exact .cons (.literal _) .nil
        | cons first rest =>
            cases first with
            | literal text => exact .cons (.literal _) rest
            | single related => exact .cons (.literal _) (.cons (.single related) rest)
      · rw [fragments_of_other string, fragments_of_other (same ▸ string)]
        exact .cons (.single pair) ih

theorem rendered {defined known : Option (List Char)} {lexeme other : Lexeme}
    (names : Names defined known) (pair : Pairs lexeme other) :
    (∃ problem, renderLexeme segmenter options defined lexeme = .error problem ∧
      renderLexeme segmenter options known other = .error problem) ∨
    ∃ token definition knowledge,
      renderLexeme segmenter options defined lexeme = .ok (token, definition) ∧
      renderLexeme segmenter options known other = .ok (token, knowledge) ∧
      Names definition knowledge := by
  have tokens := h.token names pair
  have later := h.names names pair
  cases shown : renderLexeme segmenter options defined lexeme with
  | error problem =>
      cases shownOther : renderLexeme segmenter options known other with
      | error same =>
          rw [shown, shownOther] at tokens
          obtain rfl := Except.error.inj tokens
          exact .inl ⟨problem, rfl, rfl⟩
      | ok _ =>
          rw [shown, shownOther] at tokens
          cases tokens
  | ok result =>
      cases shownOther : renderLexeme segmenter options known other with
      | error _ =>
          rw [shown, shownOther] at tokens
          cases tokens
      | ok resultOther =>
          rw [shown, shownOther] at tokens
          rw [← renderLexeme_defines shown, ← renderLexeme_defines shownOther] at later
          exact .inr ⟨result.1, result.2, resultOther.2, rfl,
            congrArg Except.ok (Prod.ext (Except.ok.inj tokens).symm rfl), later⟩

theorem renderFragments {parts others : List Fragment} {defined known : Option (List Char)}
    (pairs : List.Forall₂ (Fragment.Paired Pairs) parts others) (names : Names defined known) :
    renderFragments segmenter options defined parts =
      renderFragments segmenter options known others := by
  induction pairs generalizing defined known with
  | nil => rfl
  | cons pair pairs ih =>
      cases pair with
      | literal text => rw [renderFragments_literal, renderFragments_literal, ih names]
      | single related =>
          rcases h.rendered names related with
            ⟨problem, shown, shownOther⟩ | ⟨token, definition, knowledge, shown, shownOther, later⟩
          · rw [PseudoCode.renderFragments, PseudoCode.renderFragments, shown, shownOther]
            rfl
          · rw [renderFragments_single shown, renderFragments_single shownOther, ih later]

end InStep

/-! ## Where a text starts -/

/-- Two lexemes that differ at most in what stands before them. -/
def Lexeme.Alike (lexeme other : Lexeme) : Prop :=
  other.category = lexeme.category ∧ other.text = lexeme.text

theorem inStep_alike (segmenter : Segmenter) (options : TokenOptions) :
    InStep segmenter options Eq Lexeme.Alike where
  category pair := pair.1
  string pair _ := pair.2
  token := by
    rintro defined _ ⟨category, text, offset⟩ ⟨_, _, start⟩ rfl ⟨rfl, rfl⟩
    rfl
  names := by
    rintro defined _ ⟨category, text, offset⟩ ⟨_, _, start⟩ rfl ⟨rfl, rfl⟩
    rfl

theorem lexFrom_of_firstMatch {rules : List Rule} {text : List Char} {category : Category}
    {length offset : Nat} {lexemes : List Lexeme} (nonempty : text ≠ [])
    (found : firstMatch rules text = some (category, length))
    (later : lexFrom rules (offset + utf8Length (text.take length)) (text.drop length) = .ok lexemes) :
    lexFrom rules offset text = .ok (⟨category, text.take length, offset⟩ :: lexemes) := by
  cases text with
  | nil => exact absurd rfl nonempty
  | cons c rest =>
      rw [lexFrom_step found, later]
      rfl

theorem lexFrom_alike {rules : List Rule} {lexemes : List Lexeme} :
    ∀ {offset : Nat} {text : List Char}, lexFrom rules offset text = .ok lexemes → ∀ start,
      ∃ others, lexFrom rules start text = .ok others ∧ List.Forall₂ Lexeme.Alike lexemes others := by
  induction lexemes with
  | nil =>
      intro offset text run start
      obtain rfl := lexFrom_nil_inv run
      exact ⟨[], lexFrom_nil rules start, .nil⟩
  | cons lexeme lexemes ih =>
      intro offset text run start
      obtain ⟨length, found, taken, nonempty, -, later⟩ := lexFrom_cons_inv run
      obtain ⟨others, moved, alike⟩ := ih later (start + utf8Length (text.take length))
      have filled : text ≠ [] := by
        rintro rfl
        simp [taken] at nonempty
      exact ⟨_, lexFrom_of_firstMatch filled found moved, .cons ⟨rfl, taken.symm⟩ alike⟩

/-- The tokens of a text behind which some name is defined already. -/
def tokensFrom (segmenter : Segmenter) (options : TokenOptions) (defined : Option (List Char))
    (text : List Char) : Except TokenizeError (List (List Char)) := do
  let lexemes ← lex options.dialect text
  renderFragments segmenter options defined (fragments lexemes)

section Tokens

variable {segmenter : Segmenter} {options : TokenOptions} {defined : Option (List Char)}

theorem tokensFrom_of_run {offset : Nat} {text : List Char} {lexemes : List Lexeme}
    (run : lexFrom options.dialect.rules offset text = .ok lexemes) :
    tokensFrom segmenter options defined text =
      renderFragments segmenter options defined (fragments lexemes) := by
  obtain ⟨others, moved, alike⟩ := lexFrom_alike run 0
  have step := inStep_alike segmenter options
  rw [step.renderFragments (step.fragments alike) rfl, tokensFrom, lex, moved]
  rfl

theorem tokensFrom_nil : tokensFrom segmenter options defined [] = .ok [] := by
  rw [tokensFrom_of_run (lexFrom_nil _ 0)]
  rfl

/-- A lexeme that is no string literal adds its token to those of the text behind it. -/
theorem tokensFrom_step {category : Category} {taken rest : List Char}
    {token definition : Option (List Char)}
    (found : firstMatch options.dialect.rules (taken ++ rest) = some (category, taken.length))
    (other : category ≠ .string)
    (shown : renderLexeme segmenter options defined ⟨category, taken, 0⟩ = .ok (token, definition)) :
    tokensFrom segmenter options defined (taken ++ rest) =
      keepToken token <$> tokensFrom segmenter options definition rest := by
  obtain ⟨lexemes, run⟩ := lexFrom_total options.dialect.firstMatch_total (0 + utf8Length taken) rest
  rw [tokensFrom_of_run (lexFrom_cons found run), fragments_of_other other, renderFragments_single shown,
    tokensFrom_of_run run]

/-! ## White space -/

theorem idle_of_stopsAt {gap : Char} {recogniser : Recogniser} (h : StopsAt gap recogniser)
    (rest : List Char) : recogniser (gap :: rest) = 0 :=
  (h.append [] rest).trans (Nat.le_zero.mp (h.le []))

theorem callRule_idle {text : List Char} (unnamed : nameLength text = 0) (dialect : Dialect) :
    (callRule dialect).length text = 0 := by
  cases dialect with
  | decompiler =>
      change callLength text = 0
      simp only [callLength, unnamed, if_true]
      split <;> rfl
  | analysisTool =>
      change calledNameLength text = 0
      simp only [calledNameLength, unnamed]
      split <;> rfl

theorem blankLength_of_isBlank {c : Char} (blank : isBlank c = true) (rest : List Char) :
    blankLength (c :: rest) = ((c :: rest).takeWhile isBlank).length := by
  have other : c ≠ '\\' := by
    rintro rfl
    exact absurd blank (by decide)
  simp [blankLength, other]

theorem firstMatch_blank {c : Char} (blank : isBlank c = true) (dialect : Dialect) (rest : List Char) :
    firstMatch dialect.rules (c :: rest) =
      some (.whitespace, ((c :: rest).takeWhile isBlank).length) := by
  have gap : isGap c = true := by simp [isGap, blank]
  have early := firstMatch_of_idle fun rule member =>
    idle_of_stopsAt (earlyRules_stop gap dialect rule member) rest
  have uncalled := callRule_idle (idle_of_stopsAt (stopsAt_name gap) rest) dialect
  have some : 0 < ((c :: rest).takeWhile isBlank).length := by simp [blank]
  rw [dialect.rules_eq, firstMatch_append, early, Option.none_or]
  simp only [firstMatch, uncalled, commonRules, blankLength_of_isBlank blank, some, if_true,
    Nat.lt_irrefl, if_false]

theorem lexFrom_blank {c : Char} (blank : isBlank c = true) {dialect : Dialect} {offset : Nat}
    {rest : List Char} {lexemes : List Lexeme}
    (later : lexFrom dialect.rules (offset + utf8Length ((c :: rest).takeWhile isBlank))
      (trimStart (c :: rest)) = .ok lexemes) :
    lexFrom dialect.rules offset (c :: rest) =
      .ok (⟨.whitespace, (c :: rest).takeWhile isBlank, offset⟩ :: lexemes) := by
  have taken := take_takeWhile_length isBlank (c :: rest)
  have behind := drop_takeWhile_length isBlank (c :: rest)
  have run := lexFrom_of_firstMatch (List.cons_ne_nil c rest) (firstMatch_blank blank dialect rest)
    (by rw [taken, behind]; exact later)
  rwa [taken] at run

/-- White space before a text leaves no trace. -/
theorem tokensFrom_trimStart (text : List Char) :
    tokensFrom segmenter options defined (trimStart text) =
      tokensFrom segmenter options defined text := by
  cases text with
  | nil => rfl
  | cons c rest =>
      cases blank : isBlank c with
      | false => rw [trimStart, List.dropWhile_cons_of_neg (by simp [blank])]
      | true =>
          obtain ⟨lexemes, run⟩ := lexFrom_total options.dialect.firstMatch_total
            (0 + utf8Length ((c :: rest).takeWhile isBlank)) (trimStart (c :: rest))
          rw [tokensFrom_of_run run, tokensFrom_of_run (lexFrom_blank blank run),
            fragments_of_other (by simp), renderFragments_single rfl]
          exact (id_map _).symm

end Tokens

end SymbolCorpus.PseudoCode
