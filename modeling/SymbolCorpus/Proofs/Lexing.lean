import SymbolCorpus.Proofs.Rules
import SymbolCorpus.PseudoCode.Token

/-! # Lexing loses nothing

Lexing never fails, and its lexemes are the text itself, cut into pieces. What
follows is said of any table whose rules apply to every nonempty text, so it
rests on the two dialects in one place only.
-/

namespace SymbolCorpus.PseudoCode

open Text Identifier

/-- The text that lexemes cover together. -/
def cover (lexemes : List Lexeme) : List Char := lexemes.flatMap (·.text)

@[simp] theorem cover_nil : cover [] = [] := rfl

@[simp] theorem cover_cons (lexeme : Lexeme) (lexemes : List Lexeme) :
    cover (lexeme :: lexemes) = lexeme.text ++ cover lexemes := rfl

theorem utf8Length_append (left right : List Char) :
    utf8Length (left ++ right) = utf8Length left + utf8Length right := by
  induction left with
  | nil => simp [utf8Length]
  | cons c left ih => simp only [List.cons_append, utf8Length, ih, Nat.add_assoc]

/-! ## Steps -/

theorem lexFrom_step {rules : List Rule} {c : Char} {rest : List Char} {category : Category}
    {length : Nat} (found : firstMatch rules (c :: rest) = some (category, length)) (offset : Nat) :
    lexFrom rules offset (c :: rest) =
      (lexFrom rules (offset + utf8Length ((c :: rest).take length)) ((c :: rest).drop length)).map
        (⟨category, (c :: rest).take length, offset⟩ :: ·) := by
  rw [lexFrom]
  split
  · next missed =>
      rw [found] at missed
      cases missed
  · next category' length' same =>
      rw [found] at same
      obtain ⟨rfl, rfl⟩ := Prod.mk.inj (Option.some.inj same)
      rfl

theorem lexFrom_nil (rules : List Rule) (offset : Nat) : lexFrom rules offset [] = .ok [] := by
  rw [lexFrom]

theorem lexFrom_cons {rules : List Rule} {category : Category} {taken rest : List Char}
    {offset : Nat} {lexemes : List Lexeme}
    (found : firstMatch rules (taken ++ rest) = some (category, taken.length))
    (later : lexFrom rules (offset + utf8Length taken) rest = .ok lexemes) :
    lexFrom rules offset (taken ++ rest) = .ok (⟨category, taken, offset⟩ :: lexemes) := by
  cases taken with
  | nil => exact absurd (firstMatch_pos found) (Nat.lt_irrefl 0)
  | cons c taken =>
      rw [List.cons_append] at found ⊢
      rw [lexFrom_step found, ← List.cons_append, List.take_left, List.drop_left, later]
      rfl

theorem lexFrom_stuck {rules : List Rule} {c : Char} {rest : List Char}
    (missed : firstMatch rules (c :: rest) = none) (offset : Nat) :
    lexFrom rules offset (c :: rest) = .error (.unlexable offset [c]) := by
  rw [lexFrom]
  split
  · rfl
  · next found =>
      rw [missed] at found
      cases found

theorem map_eq_ok {ε α β : Type} {f : α → β} {result : Except ε α} {value : β}
    (h : result.map f = .ok value) : ∃ inner, result = .ok inner ∧ f inner = value := by
  cases result with
  | error _ => cases h
  | ok inner => exact ⟨inner, rfl, Except.ok.inj h⟩

/-- What a step of a successful run did: the first rule decides the lexeme, and lexing goes on
    behind it. -/
theorem lexFrom_cons_inv {rules : List Rule} {offset : Nat} {text : List Char} {lexeme : Lexeme}
    {lexemes : List Lexeme} (h : lexFrom rules offset text = .ok (lexeme :: lexemes)) :
    ∃ length, firstMatch rules text = some (lexeme.category, length) ∧
      lexeme.text = text.take length ∧ lexeme.text ≠ [] ∧ lexeme.offset = offset ∧
      lexFrom rules (offset + utf8Length lexeme.text) (text.drop length) = .ok lexemes := by
  cases text with
  | nil => simp [lexFrom] at h
  | cons c rest =>
      cases found : firstMatch rules (c :: rest) with
      | none =>
          rw [lexFrom_stuck found] at h
          cases h
      | some taken =>
          obtain ⟨category, length⟩ := taken
          rw [lexFrom_step found] at h
          obtain ⟨later, run, same⟩ := map_eq_ok h
          obtain ⟨rfl, rfl⟩ := List.cons.inj same
          refine ⟨length, rfl, rfl, ?_, rfl, run⟩
          obtain ⟨n, rfl⟩ := Nat.exists_eq_succ_of_ne_zero (Nat.ne_of_gt (firstMatch_pos found))
          simp

theorem lexFrom_nil_inv {rules : List Rule} {offset : Nat} {text : List Char}
    (h : lexFrom rules offset text = .ok []) : text = [] := by
  cases text with
  | nil => rfl
  | cons c rest =>
      cases found : firstMatch rules (c :: rest) with
      | none =>
          rw [lexFrom_stuck found] at h
          cases h
      | some taken =>
          rw [lexFrom_step found] at h
          obtain ⟨later, -, same⟩ := map_eq_ok h
          cases same

/-- A run can be entered at any of its lexemes: those before it cover what stands before it. -/
theorem lexFrom_append_inv {rules : List Rule} {before after : List Lexeme} :
    ∀ {offset : Nat} {text : List Char}, lexFrom rules offset text = .ok (before ++ after) →
      ∃ rest, text = cover before ++ rest ∧
        lexFrom rules (offset + utf8Length (cover before)) rest = .ok after := by
  induction before with
  | nil => exact fun {_} {text} h => ⟨text, rfl, by simpa [utf8Length] using h⟩
  | cons lexeme before ih =>
      intro offset text h
      obtain ⟨length, -, taken, -, -, later⟩ := lexFrom_cons_inv h
      obtain ⟨rest, left, run⟩ := ih later
      refine ⟨rest, ?_, ?_⟩
      · rw [cover_cons, List.append_assoc, ← left, taken, List.take_append_drop]
      · rwa [cover_cons, utf8Length_append, ← Nat.add_assoc]

theorem lexFrom_total {rules : List Rule}
    (total : ∀ c rest, ∃ found, firstMatch rules (c :: rest) = some found) (offset : Nat)
    (text : List Char) : ∃ lexemes, lexFrom rules offset text = .ok lexemes := by
  fun_induction lexFrom rules offset text with
  | case1 => exact ⟨[], rfl⟩
  | case2 offset c rest missed =>
      obtain ⟨found, applies⟩ := total c rest
      rw [missed] at applies
      cases applies
  | case3 offset c rest category length found taken ih =>
      obtain ⟨lexemes, run⟩ := ih
      exact ⟨⟨category, taken, offset⟩ :: lexemes, by rw [run]; rfl⟩

/-! ## Whole runs -/

/-- The lexemes are the text cut into nonempty pieces, each with the number of octets before it. -/
structure Lossless (text : List Char) (lexemes : List Lexeme) : Prop where
  nonempty : ∀ lexeme ∈ lexemes, lexeme.text ≠ []
  whole : cover lexemes = text
  placed : ∀ before lexeme after, lexemes = before ++ lexeme :: after →
    lexeme.offset = utf8Length (cover before)

theorem lexFrom_lossless {rules : List Rule} {text : List Char} {lexemes : List Lexeme}
    (h : lexFrom rules 0 text = .ok lexemes) : Lossless text lexemes where
  nonempty := by
    intro lexeme member
    obtain ⟨before, after, rfl⟩ := List.append_of_mem member
    obtain ⟨rest, -, run⟩ := lexFrom_append_inv h
    obtain ⟨_, -, -, nonempty, -, -⟩ := lexFrom_cons_inv run
    exact nonempty
  whole := by
    obtain ⟨rest, left, run⟩ := @lexFrom_append_inv rules lexemes [] 0 text (by rwa [List.append_nil])
    rw [left, lexFrom_nil_inv run, List.append_nil]
  placed := by
    rintro before lexeme after rfl
    obtain ⟨rest, -, run⟩ := lexFrom_append_inv h
    obtain ⟨_, -, -, -, offset, -⟩ := lexFrom_cons_inv run
    rw [offset, Nat.zero_add]

/-- Lexemes that follow one another from an offset on, each of them what the first rule that applies
    takes of the text that they cover together. -/
def lexesAs (rules : List Rule) : Nat → List Lexeme → Bool
  | _, [] => true
  | offset, lexeme :: lexemes =>
      lexeme.offset = offset &&
        firstMatch rules (lexeme.text ++ cover lexemes) =
          some (lexeme.category, lexeme.text.length) &&
        lexesAs rules (offset + utf8Length lexeme.text) lexemes

theorem lexFrom_of_lexesAs {rules : List Rule} {offset : Nat} {lexemes : List Lexeme}
    (h : lexesAs rules offset lexemes = true) :
    lexFrom rules offset (cover lexemes) = .ok lexemes := by
  induction lexemes generalizing offset with
  | nil => exact lexFrom_nil rules offset
  | cons lexeme lexemes ih =>
      simp only [lexesAs, Bool.and_eq_true, decide_eq_true_eq] at h
      obtain ⟨⟨rfl, found⟩, later⟩ := h
      exact lexFrom_cons found (ih later)

theorem lex_of_lexesAs {dialect : Dialect} {text : List Char} {lexemes : List Lexeme}
    (whole : cover lexemes = text) (h : lexesAs dialect.rules 0 lexemes = true) :
    lex dialect text = .ok lexemes := by
  rw [← whole]
  exact lexFrom_of_lexesAs h

/-- A lexeme that no number precedes begins where no word goes on. -/
theorem lexFrom_parted {dialect : Dialect} {offset : Nat} {text : List Char}
    {before after : List Lexeme} (h : lexFrom dialect.rules offset text = .ok (before ++ after))
    (unnumbered : ∀ previous ∈ before.getLast?, previous.category ≠ .number) :
    ∀ rest, text = cover before ++ rest → ∀ last ∈ (cover before).getLast?, ∀ next ∈ rest.head?,
      isWord last = true → isWord next = false := by
  intro rest left last atEnd next atStart
  rcases List.eq_nil_or_concat' before with rfl | ⟨earlier, previous, rfl⟩
  · simp at atEnd
  · rw [List.append_assoc] at h
    obtain ⟨start, placed, run⟩ := lexFrom_append_inv h
    obtain ⟨length, found, taken, nonempty, -⟩ := lexFrom_cons_inv run
    obtain ⟨rule, member, sameCategory, rfl⟩ := exists_rule_of_firstMatch found
    have notNumber : rule.category ≠ .number := by
      rw [sameCategory]
      exact unnumbered previous (by simp)
    have joined : cover (earlier ++ [previous]) = cover earlier ++ previous.text := by
      simp [cover]
    have behind : start.drop (rule.length start) = rest := by
      rw [joined, placed, List.append_assoc] at left
      have := List.append_cancel_left left
      rw [← List.take_append_drop (rule.length start) start, ← taken] at this
      exact List.append_cancel_left this
    rw [joined, List.getLast?_append_of_ne_nil _ nonempty, taken] at atEnd
    exact Dialect.rules_parted member notNumber start last atEnd next (behind ▸ atStart)

/-! ## Categories -/

/-- A dialect has a token, or a reason to leave it out, for every lexeme of the category. -/
def Dialect.Accepts (dialect : Dialect) (category : Category) : Prop :=
  ∀ segmenter keepStrings keepCalls defined text offset, ∃ rendered,
    renderLexeme segmenter ⟨dialect, keepStrings, keepCalls⟩ defined ⟨category, text, offset⟩ =
      .ok rendered

theorem accepts_analysisTool (category : Category) : Dialect.analysisTool.Accepts category := by
  intro segmenter keepStrings keepCalls defined text offset
  cases category <;> exact ⟨_, rfl⟩

theorem accepts_decompiler {category : Category}
    (h : category ∉ [Category.nameVariable, .nameRegister, .nameLabel, .nameCondition]) :
    Dialect.decompiler.Accepts category := by
  intro segmenter keepStrings keepCalls defined text offset
  cases category <;> simp [renderLexeme] at h ⊢

theorem Dialect.rules_accepted {dialect : Dialect} {rule : Rule} (h : rule ∈ dialect.rules) :
    dialect.Accepts rule.category := by
  cases dialect with
  | analysisTool => exact accepts_analysisTool rule.category
  | decompiler =>
      have own : ∀ category ∈ Dialect.decompiler.rules.map (·.category),
          category ∉ [Category.nameVariable, .nameRegister, .nameLabel, .nameCondition] := by
        decide
      exact accepts_decompiler (own rule.category (List.mem_map_of_mem h))

/-- A lexeme is what the first rule that applies takes of some text. -/
def Lexeme.IsTaken (dialect : Dialect) (lexeme : Lexeme) : Prop :=
  ∃ rest length, firstMatch dialect.rules rest = some (lexeme.category, length) ∧
    lexeme.text = rest.take length

theorem isTaken_of_mem_lex {dialect : Dialect} {text : List Char} {lexemes : List Lexeme}
    (h : lex dialect text = .ok lexemes) : ∀ lexeme ∈ lexemes, lexeme.IsTaken dialect := by
  intro lexeme member
  obtain ⟨before, after, rfl⟩ := List.append_of_mem member
  obtain ⟨rest, -, run⟩ := lexFrom_append_inv h
  obtain ⟨length, found, taken, -⟩ := lexFrom_cons_inv run
  exact ⟨rest, length, found, taken⟩

theorem lex_accepted {dialect : Dialect} {text : List Char} {lexemes : List Lexeme}
    (h : lex dialect text = .ok lexemes) :
    ∀ lexeme ∈ lexemes, dialect.Accepts lexeme.category := by
  intro lexeme member
  obtain ⟨rest, length, found, -⟩ := isTaken_of_mem_lex h lexeme member
  obtain ⟨rule, inRules, same, -⟩ := exists_rule_of_firstMatch found
  exact same ▸ Dialect.rules_accepted inRules

theorem mem_of_single_mem_fragments {lexemes : List Lexeme} {lexeme : Lexeme}
    (h : Fragment.single lexeme ∈ fragments lexemes) : lexeme ∈ lexemes := by
  induction lexemes with
  | nil => simp [fragments] at h
  | cons first rest ih =>
      simp only [fragments] at h
      split at h
      · split at h
        · next text later joined =>
            rcases List.mem_cons.mp h with impossible | inLater
            · cases impossible
            · exact List.mem_cons_of_mem first (ih (by rw [joined]; exact .tail _ inLater))
        · rcases List.mem_cons.mp h with impossible | inRest
          · cases impossible
          · exact List.mem_cons_of_mem first (ih inRest)
      · rcases List.mem_cons.mp h with same | inRest
        · obtain rfl := Fragment.single.inj same
          exact List.mem_cons_self
        · exact List.mem_cons_of_mem first (ih inRest)

theorem renderFragments_total {dialect : Dialect} (segmenter : Segmenter)
    (keepStrings keepCalls : Bool) (parts : List Fragment)
    (accepted : ∀ lexeme, Fragment.single lexeme ∈ parts → dialect.Accepts lexeme.category) :
    ∀ defined, ∃ tokens,
      renderFragments segmenter ⟨dialect, keepStrings, keepCalls⟩ defined parts = .ok tokens := by
  induction parts with
  | nil => exact fun defined => ⟨[], by simp [renderFragments]⟩
  | cons part rest ih =>
      intro defined
      have restTotal := ih fun lexeme member => accepted lexeme (List.mem_cons_of_mem part member)
      cases part with
      | literal text =>
          obtain ⟨tokens, run⟩ := restTotal defined
          exact ⟨_, by rw [renderFragments, run]; rfl⟩
      | single lexeme =>
          obtain ⟨⟨token, definition⟩, shown⟩ := accepted lexeme List.mem_cons_self segmenter
            keepStrings keepCalls defined lexeme.text lexeme.offset
          obtain ⟨tokens, run⟩ := restTotal definition
          exact ⟨keepToken token tokens, by
            rw [renderFragments, shown]
            change (renderFragments _ _ definition rest >>= _) = _
            rw [run]
            rfl⟩

/-- Lexing is total and lossless in both dialects, no lexeme has a category that its dialect has no
    token for, and so tokenizing never fails. -/
theorem lex_total (dialect : Dialect) (text : List Char) :
    (∃ lexemes, lex dialect text = .ok lexemes ∧ Lossless text lexemes ∧
      ∀ lexeme ∈ lexemes, dialect.Accepts lexeme.category) ∧
    ∀ segmenter keepStrings keepCalls, ∃ tokens,
      tokenize segmenter ⟨dialect, keepStrings, keepCalls⟩ text = .ok tokens := by
  obtain ⟨lexemes, run⟩ := lexFrom_total dialect.firstMatch_total 0 text
  have accepted := @lex_accepted dialect text lexemes run
  refine ⟨⟨lexemes, run, lexFrom_lossless run, accepted⟩, fun segmenter keepStrings keepCalls => ?_⟩
  obtain ⟨tokens, rendered⟩ := renderFragments_total segmenter keepStrings keepCalls
    (fragments lexemes) (fun lexeme member => accepted lexeme (mem_of_single_mem_fragments member))
    none
  refine ⟨tokens, ?_⟩
  change (lexFrom dialect.rules 0 text >>= fun lexemes => _) = _
  rw [run]
  exact rendered

end SymbolCorpus.PseudoCode
