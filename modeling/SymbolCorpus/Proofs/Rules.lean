import Mathlib.Data.List.TakeWhile
import SymbolCorpus.Proofs.Characters
import SymbolCorpus.PseudoCode.Lexeme

/-! # What the rules take

Two laws hold of whole rule tables. No rule but those for numbers stops inside a
word; a number may stop there, which is why `1main` is a number with a name
directly behind it. And some rule takes something of every text that is not empty.
-/

namespace SymbolCorpus.PseudoCode

open Text

theorem drop_takeWhile_length (p : Char → Bool) (text : List Char) :
    text.drop (text.takeWhile p).length = text.dropWhile p := by
  induction text with
  | nil => rfl
  | cons c rest ih => cases h : p c <;> simp [h, ih]

theorem take_takeWhile_length (p : Char → Bool) (text : List Char) :
    text.take (text.takeWhile p).length = text.takeWhile p := by
  induction text with
  | nil => rfl
  | cons c rest ih => cases h : p c <;> simp [h, ih]

theorem head?_dropWhile_eq_false {p : Char → Bool} {text : List Char} {c : Char}
    (h : c ∈ (text.dropWhile p).head?) : p c = false := by
  have := List.head?_dropWhile_not p text
  rw [Option.mem_def.mp h] at this
  simpa using this

theorem takeWhile_append_of_ends {p : Char → Bool} {run rest : List Char}
    (inside : ∀ c ∈ run, p c = true) (ends : ∀ next ∈ rest.head?, p next = false) :
    (run ++ rest).takeWhile p = run := by
  rw [List.takeWhile_append_of_pos inside]
  cases rest with
  | nil => simp
  | cons next rest => simp [ends next rfl]

/-! ## Word boundaries -/

/-- A text cut after some characters is not cut inside a word. -/
def Parted (text : List Char) (length : Nat) : Prop :=
  ∀ last ∈ (text.take length).getLast?, ∀ next ∈ (text.drop length).head?,
    isWord last = true → isWord next = false

theorem Parted.zero (text : List Char) : Parted text 0 := by
  intro last h
  simp at h

theorem Parted.of_next {text : List Char} {length : Nat}
    (h : ∀ next ∈ (text.drop length).head?, isWord next = false) : Parted text length :=
  fun _ _ next member _ => h next member

theorem Parted.of_last {text : List Char} {length : Nat}
    (h : ∀ last ∈ (text.take length).getLast?, isWord last = false) : Parted text length := by
  intro last member _ _ word
  rw [h last member] at word
  exact absurd word Bool.false_ne_true

theorem Parted.of_takeWhile (p : Char → Bool) (rest : List Char) {text : List Char} {length : Nat}
    (hd : text.drop length = rest.dropWhile p) (outside : ∀ c, p c = false → isWord c = false) :
    Parted text length := by
  refine Parted.of_next fun next member => outside next ?_
  rw [hd] at member
  exact head?_dropWhile_eq_false member

theorem parted_wholeWord (accepts : List Char → Bool) (text : List Char) :
    Parted text (wholeWord accepts text) := by
  unfold wholeWord
  dsimp only
  split
  · exact Parted.of_takeWhile isWord text (drop_takeWhile_length isWord text) fun _ h => h
  · exact Parted.zero text

theorem firstOf_cases (texts : List (List Char)) (text : List Char) :
    (∃ found ∈ texts, text.take (firstOf texts text) = found) ∨ firstOf texts text = 0 := by
  unfold firstOf
  split
  · next found h =>
      have starts : found <+: text := by
        simpa using List.find?_some h
      exact .inl ⟨found, List.mem_of_find?_eq_some h, (List.prefix_iff_eq_take.mp starts).symm⟩
  · exact .inr rfl

/-- The texts end in no word character, in a form that can be computed. -/
def endOutsideWords (texts : List (List Char)) : Bool :=
  texts.all fun text => text.getLast?.all fun last => !isWord last

theorem parted_firstOf {texts : List (List Char)} (h : endOutsideWords texts = true)
    (text : List Char) : Parted text (firstOf texts text) := by
  rcases firstOf_cases texts text with ⟨found, member, taken⟩ | none
  · refine Parted.of_last fun last ends => ?_
    rw [taken] at ends
    have outside := Option.all_eq_true .. |>.mp (List.all_eq_true.mp h found member) last ends
    simpa using outside
  · rw [none]
    exact Parted.zero text

theorem parted_oneChar {test : Char → Bool} (h : ∀ c, test c = true → isWord c = false)
    (text : List Char) : Parted text (oneChar test text) := by
  cases text with
  | nil => exact Parted.zero []
  | cons c rest =>
      by_cases accepted : test c = true
      · rw [oneChar, if_pos accepted]
        refine Parted.of_last fun last member => ?_
        obtain rfl : c = last := by simpa using member
        exact h c accepted
      · rw [oneChar, if_neg accepted]
        exact Parted.zero _

theorem outside_line {c : Char} (h : decide (c ≠ '\n') = false) : isWord c = false := by
  obtain rfl : c = '\n' := by simpa using h
  decide

theorem drop_lineLength (rest : List Char) :
    rest.drop (lineLength rest) = rest.dropWhile (· ≠ '\n') :=
  drop_takeWhile_length _ rest

theorem parted_blank (text : List Char) : Parted text (blankLength text) := by
  unfold blankLength
  split
  · refine Parted.of_last fun last member => ?_
    obtain rfl : '\n' = last := by simpa using member
    decide
  · refine Parted.of_last fun last member => ?_
    rw [take_takeWhile_length] at member
    exact isWord_eq_false_of_isBlank (List.mem_takeWhile_imp (List.mem_of_getLast? member))

theorem parted_lineComment (text : List Char) : Parted text (lineCommentLength text) := by
  unfold lineCommentLength
  split
  · next rest =>
      refine Parted.of_takeWhile (· ≠ '\n') rest ?_ fun _ => outside_line
      rw [Nat.add_comm]
      exact drop_lineLength rest
  · exact Parted.zero _

theorem blockLength_ends (text : List Char) :
    (∃ before, text.take (blockLength text) = before ++ ['/']) ∨
      text.drop (blockLength text) = [] := by
  induction text using blockLength.induct with
  | case1 rest => exact .inl ⟨['*'], rfl⟩
  | case2 c rest h ih =>
      rw [blockLength.eq_2 c rest h, Nat.add_comm]
      rcases ih with ⟨before, taken⟩ | finished
      · exact .inl ⟨c :: before, by rw [List.take_succ_cons, taken, List.cons_append]⟩
      · exact .inr finished
  | case3 => exact .inr rfl

theorem parted_blockComment (text : List Char) : Parted text (blockCommentLength text) := by
  unfold blockCommentLength
  split
  · next rest =>
      rw [Nat.add_comm]
      rcases blockLength_ends rest with ⟨before, taken⟩ | finished
      · refine Parted.of_last fun last member => ?_
        simp only [List.take_succ_cons, taken] at member
        obtain rfl : '/' = last := by simpa [List.getLast?_cons] using member
        decide
      · refine Parted.of_next fun next member => ?_
        simp [finished] at member
  · exact Parted.zero _

theorem parted_directive (text : List Char) : Parted text (directiveLength text) := by
  unfold directiveLength
  split
  · next rest =>
      dsimp only
      split
      · generalize (rest.takeWhile fun c => c == ' ' || c == '\t').length = indent
        refine Parted.of_takeWhile (· ≠ '\n') (rest.drop indent) ?_ fun _ => outside_line
        rw [Nat.add_assoc, Nat.add_comm 1, List.drop_succ_cons, ← List.drop_drop]
        exact drop_lineLength _
      · exact Parted.zero _
  · exact Parted.zero _

/-! ## Literals -/

theorem openedBy_eq_some {quote : Char} {text rest : List Char} {opening : Nat}
    (h : openedBy quote text = some (opening, rest)) :
    ∃ mark ∈ encodingMarks, text = (mark ++ [quote]) ++ rest ∧ opening = (mark ++ [quote]).length := by
  obtain ⟨mark, member, found⟩ := List.exists_of_findSome?_eq_some h
  obtain ⟨rest', starts, same⟩ := Option.map_eq_some_iff.mp found
  obtain ⟨rfl, rfl⟩ := Prod.mk.inj same
  refine ⟨mark, member, ?_, by simp⟩
  exact (List.isPrefixOf?_eq_some_iff_append_eq.mp starts).symm

/-- What can stand between two quotes on a line: a backslash only with the character after it, and
    the quote only after a backslash. -/
inductive IsContent (quote : Char) : List Char → Prop where
  | nil : IsContent quote []
  | plain {c : Char} {rest : List Char} (other : c ≠ quote) (backslash : c ≠ '\\')
      (newline : c ≠ '\n') (later : IsContent quote rest) : IsContent quote (c :: rest)
  | escaped {c : Char} {rest : List Char} (newline : c ≠ '\n') (later : IsContent quote rest) :
      IsContent quote ('\\' :: c :: rest)

theorem exists_content {quote : Char} {text : List Char} {closing : Nat}
    (h : closingLength? quote text = some closing) :
    ∃ content rest, text = content ++ quote :: rest ∧ IsContent quote content ∧
      closing = content.length + 1 := by
  fun_induction closingLength? quote text generalizing closing with
  | case1 => cases h
  | case2 => cases h
  | case3 c text newline ih =>
      obtain ⟨inner, found, rfl⟩ := Option.map_eq_some_iff.mp h
      obtain ⟨content, rest, rfl, valid, rfl⟩ := ih found
      exact ⟨'\\' :: c :: content, rest, rfl, .escaped newline valid, rfl⟩
  | case4 text _ =>
      obtain rfl := Option.some.inj h
      exact ⟨[], text, rfl, .nil, rfl⟩
  | case5 => cases h
  | case6 c text _ other goes ih =>
      simp only [Bool.or_eq_true, decide_eq_true_eq, not_or] at goes
      obtain ⟨inner, found, rfl⟩ := Option.map_eq_some_iff.mp h
      obtain ⟨content, rest, rfl, valid, rfl⟩ := ih found
      exact ⟨c :: content, rest, rfl, .plain other goes.2 goes.1 valid, rfl⟩

theorem closingLength?_plain {quote c : Char} (plain : c ≠ '\\') (rest : List Char) :
    closingLength? quote (c :: rest) =
      if c = quote then some 1
      else if c = '\n' then none else (closingLength? quote rest).map (· + 1) := by
  simp [closingLength?, plain]

theorem closingLength?_of_isContent {quote : Char} (backslash : quote ≠ '\\') {content : List Char}
    (h : IsContent quote content) (rest : List Char) :
    closingLength? quote (content ++ quote :: rest) = some (content.length + 1) := by
  induction h with
  | nil =>
      rw [List.nil_append, closingLength?_plain backslash, if_pos rfl]
      rfl
  | plain other backslash newline _ ih =>
      rw [List.cons_append, closingLength?_plain backslash, if_neg other, if_neg newline, ih]
      rfl
  | escaped newline _ ih => simp [closingLength?, newline, ih]

theorem closedLength_of_opened {quote : Char} {text rest : List Char} {opening : Nat}
    (opened : openedBy quote text = some (opening, rest)) :
    closedLength quote text = ((closingLength? quote rest).map (opening + ·)).getD 0 := by
  rw [closedLength, opened]
  dsimp only
  cases closingLength? quote rest <;> rfl

theorem openStringLength_of_opened {text rest : List Char} {opening : Nat}
    (opened : openedBy '"' text = some (opening, rest)) :
    openStringLength text = opening + lineLength rest := by
  rw [openStringLength, opened]

theorem take_closedLength {quote : Char} {text : List Char} (h : 0 < closedLength quote text) :
    ∃ mark ∈ encodingMarks, ∃ content, IsContent quote content ∧
      text.take (closedLength quote text) = mark ++ quote :: (content ++ [quote]) := by
  cases opened : openedBy quote text with
  | none => simp [closedLength, opened] at h
  | some parts =>
      obtain ⟨opening, rest⟩ := parts
      rw [closedLength_of_opened opened] at h ⊢
      obtain ⟨mark, marked, rfl, rfl⟩ := openedBy_eq_some opened
      cases closes : closingLength? quote rest with
      | none => simp [closes] at h
      | some closing =>
          obtain ⟨content, behind, rfl, valid, rfl⟩ := exists_content closes
          refine ⟨mark, marked, content, valid, ?_⟩
          rw [Option.map_some, Option.getD_some, List.take_length_add_append,
            List.take_length_add_append, List.take_succ_cons, List.take_zero, List.append_assoc]
          rfl

theorem parted_closed {quote : Char} (hq : isWord quote = false) (text : List Char) :
    Parted text (closedLength quote text) := by
  rcases Nat.eq_zero_or_pos (closedLength quote text) with none | positive
  · rw [none]
    exact Parted.zero text
  · obtain ⟨mark, -, content, -, taken⟩ := take_closedLength positive
    refine Parted.of_last fun last member => ?_
    rw [taken, ← List.cons_append, ← List.append_assoc, List.getLast?_concat] at member
    exact Option.some.inj member ▸ hq

theorem parted_openString (text : List Char) : Parted text (openStringLength text) := by
  unfold openStringLength
  split
  · next opening rest opened =>
      obtain ⟨mark, -, rfl, rfl⟩ := openedBy_eq_some opened
      refine Parted.of_takeWhile (· ≠ '\n') rest ?_ fun _ => outside_line
      rw [List.drop_length_add_append]
      exact drop_lineLength rest
  · exact Parted.zero text

/-! ## Names -/

theorem parted_name (text : List Char) : Parted text (nameLength text) :=
  parted_wholeWord isName text

theorem parted_calledName (text : List Char) : Parted text (calledNameLength text) := by
  unfold calledNameLength
  dsimp only
  split
  · exact parted_name text
  · exact Parted.zero text

theorem take_callLength {text : List Char} (h : 0 < callLength text) :
    callLength text = nameLength text + 1 ∧ 0 < nameLength text ∧
      text.take (callLength text) = text.take (nameLength text) ++ ['('] := by
  unfold callLength at h ⊢
  dsimp only at h ⊢
  split at h
  · next rest opened =>
      split at h
      · exact absurd h (Nat.lt_irrefl 0)
      · next named =>
          refine ⟨by rw [if_neg named], Nat.pos_of_ne_zero named, ?_⟩
          rw [if_neg named, List.take_add, opened, List.take_succ_cons, List.take_zero]
  · exact absurd h (Nat.lt_irrefl 0)

theorem parted_call (text : List Char) : Parted text (callLength text) := by
  rcases Nat.eq_zero_or_pos (callLength text) with none | positive
  · rw [none]
    exact Parted.zero text
  · obtain ⟨-, -, taken⟩ := take_callLength positive
    refine Parted.of_last fun last member => ?_
    rw [taken, List.getLast?_concat] at member
    obtain rfl := Option.some.inj member
    decide

theorem parted_condition (text : List Char) : Parted text (conditionLength text) := by
  unfold conditionLength
  split
  · next rest stemmed =>
      dsimp only
      split
      · exact Parted.zero text
      · obtain rfl := List.isPrefixOf?_eq_some_iff_append_eq.mp stemmed
        refine Parted.of_takeWhile isWord rest ?_ fun _ h => h
        rw [← drop_takeWhile_length isWord rest]
        have stem : "cond:".toList.length = 5 := rfl
        rw [← stem, List.drop_length_add_append]
        rfl
  · exact Parted.zero text

/-! ## Rule tables -/

theorem leadingRules_parted : ∀ rule ∈ leadingRules, ∀ text, Parted text (rule.length text) := by
  simp only [leadingRules, List.forall_mem_cons, List.not_mem_nil, false_imp_iff, implies_true,
    and_true]
  refine ⟨?placeholders, ?scope, ?compound⟩
  case placeholders => exact parted_firstOf (by decide)
  case scope => exact parted_firstOf (by decide)
  case compound => exact parted_firstOf (by decide)

theorem dialectRules_parted (dialect : Dialect) :
    ∀ rule ∈ dialectRules dialect, ∀ text, Parted text (rule.length text) := by
  cases dialect <;>
    simp only [dialectRules, List.forall_mem_cons, List.not_mem_nil, false_imp_iff, implies_true,
      and_true]
  case decompiler =>
    exact ⟨parted_wholeWord _, parted_wholeWord _, parted_wholeWord _⟩
  case analysisTool =>
    exact ⟨parted_wholeWord _, parted_condition, parted_wholeWord _, parted_wholeWord _,
      parted_wholeWord _, parted_wholeWord _, parted_wholeWord _⟩

theorem keywordRules_parted : ∀ rule ∈ keywordRules, ∀ text, Parted text (rule.length text) := by
  simp only [keywordRules, List.forall_mem_cons, List.not_mem_nil, false_imp_iff, implies_true,
    and_true]
  exact ⟨parted_wholeWord _, parted_wholeWord _⟩

theorem callRule_parted (dialect : Dialect) (text : List Char) :
    Parted text ((callRule dialect).length text) := by
  cases dialect with
  | decompiler => exact parted_call text
  | analysisTool => exact parted_calledName text

theorem isWord_eq_false_of_isOperator {c : Char} (h : isOperator c = true) : isWord c = false := by
  have all : ("~!%^&*+=|?:<>/-".toList.all fun c => !isWord c) = true := by decide
  have outside := List.all_eq_true.mp all c (by simpa [isOperator] using h)
  simpa using outside

theorem isWord_eq_false_of_isPunctuation {c : Char} (h : isPunctuation c = true) :
    isWord c = false := by
  have all : ("()[],.;\x7b\x7d".toList.all fun c => !isWord c) = true := by decide
  have outside := List.all_eq_true.mp all c (by simpa [isPunctuation] using h)
  simpa using outside

/-- Only numbers are exempt: `0x1g` is a number and a name. -/
theorem commonRules_parted : ∀ rule ∈ commonRules, rule.category ≠ .number →
    ∀ text, Parted text (rule.length text) := by
  have quotes : isWord '"' = false ∧ isWord '\'' = false := by decide
  simp only [commonRules, List.forall_mem_cons, List.not_mem_nil, false_imp_iff, implies_true,
    and_true, ne_eq, not_true_eq_false, reduceCtorEq, not_false_eq_true, true_imp_iff, true_and]
  exact ⟨parted_blank, parted_lineComment, parted_blockComment, parted_directive,
    parted_closed quotes.1, parted_openString, parted_closed quotes.2,
    parted_oneChar fun _ => isWord_eq_false_of_isOperator,
    parted_oneChar fun _ => isWord_eq_false_of_isPunctuation, parted_name,
    parted_oneChar fun c h => by simpa using (Bool.and_eq_true_iff.mp h).2⟩

theorem Dialect.rules_parted {dialect : Dialect} {rule : Rule} (h : rule ∈ dialect.rules)
    (notNumber : rule.category ≠ .number) (text : List Char) : Parted text (rule.length text) := by
  simp only [rules, List.mem_append, List.mem_cons] at h
  rcases h with ((leading | own) | keyword) | rfl | common
  · exact leadingRules_parted rule leading text
  · exact dialectRules_parted dialect rule own text
  · exact keywordRules_parted rule keyword text
  · exact callRule_parted dialect text
  · exact commonRules_parted rule common notNumber text

/-! ## Rules for words -/

theorem take_wholeWord {accepts : List Char → Bool} {text : List Char}
    (h : 0 < wholeWord accepts text) :
    text.take (wholeWord accepts text) = wordRun text := by
  unfold wholeWord at h ⊢
  dsimp only at h ⊢
  split at h
  · next accepted =>
      rw [if_pos accepted]
      exact take_takeWhile_length isWord text
  · exact absurd h (Nat.lt_irrefl 0)

theorem wholeWord_of_rejected {accepts : List Char → Bool} {text word : List Char}
    (h : wordRun text = word) (rejected : accepts word = false) : wholeWord accepts text = 0 := by
  simp [wholeWord, h, rejected]

theorem wholeWord_of_accepted {accepts : List Char → Bool} {text word : List Char}
    (h : wordRun text = word) (accepted : accepts word = true) :
    wholeWord accepts text = word.length := by
  simp [wholeWord, h, accepted]

theorem take_calledName {text : List Char} (h : 0 < calledNameLength text) :
    text.take (calledNameLength text) = wordRun text := by
  unfold calledNameLength at h ⊢
  dsimp only at h ⊢
  split at h
  · exact take_wholeWord h
  · exact absurd h (Nat.lt_irrefl 0)

theorem take_condition {text : List Char} (h : 0 < conditionLength text) :
    ∃ rest, text = "cond:".toList ++ rest ∧ wordRun rest ≠ [] ∧
      text.take (conditionLength text) = "cond:".toList ++ wordRun rest := by
  unfold conditionLength at h ⊢
  dsimp only at h ⊢
  split at h
  · next rest stemmed =>
      obtain rfl := List.isPrefixOf?_eq_some_iff_append_eq.mp stemmed
      split at h
      · exact absurd h (Nat.lt_irrefl 0)
      · next numbered =>
          have stem : "cond:".toList.length = 5 := rfl
          refine ⟨rest, rfl, by simpa using numbered, ?_⟩
          rw [if_neg numbered, ← stem, List.take_length_add_append]
          exact congrArg _ (take_takeWhile_length isWord rest)
  · exact absurd h (Nat.lt_irrefl 0)

/-- The categories of lexemes that are words: keywords, types, and names of every kind. -/
def Category.IsWord (category : Category) : Prop :=
  category ∈ [.keyword, .keywordType, .nameFunction, .identifier, .nameVariable, .nameRegister,
    .nameLabel, .nameCondition]

instance (category : Category) : Decidable category.IsWord :=
  inferInstanceAs (Decidable (category ∈ [_, _, _, _, _, _, _, _]))

/-- The ways in which a rule takes the word at the start of a text. -/
inductive TakesWord (dialect : Dialect) (rule : Rule) (text : List Char) : Prop where
  /-- The whole run of word characters. -/
  | run : text.take (rule.length text) = wordRun text → TakesWord dialect rule text
  /-- The run with a parenthesis, only for a call of a decompiler's text. -/
  | call : rule = callRule .decompiler → dialect = .decompiler →
      text.take (rule.length text) = wordRun text ++ ['('] → TakesWord dialect rule text
  /-- The stem of a condition with the run behind it. -/
  | condition {rest : List Char} : rule.category = .nameCondition → text = "cond:".toList ++ rest →
      wordRun rest ≠ [] → text.take (rule.length text) = "cond:".toList ++ wordRun rest →
      TakesWord dialect rule text

theorem takesWord_wholeWord {dialect : Dialect} {category : Category} {accepts : List Char → Bool}
    {text : List Char} (h : 0 < wholeWord accepts text) :
    TakesWord dialect ⟨category, wholeWord accepts⟩ text :=
  .run (take_wholeWord h)

theorem takesWord_condition {dialect : Dialect} {text : List Char} (h : 0 < conditionLength text) :
    TakesWord dialect ⟨.nameCondition, conditionLength⟩ text := by
  obtain ⟨rest, stemmed, numbered, taken⟩ := take_condition h
  exact .condition rfl stemmed numbered taken

theorem dialectRules_takeWord (dialect : Dialect) :
    ∀ rule ∈ dialectRules dialect, ∀ text, 0 < rule.length text → TakesWord dialect rule text := by
  cases dialect <;>
    simp only [dialectRules, List.forall_mem_cons, List.not_mem_nil, false_imp_iff, implies_true,
      and_true]
  case decompiler =>
    exact ⟨fun _ => takesWord_wholeWord, fun _ => takesWord_wholeWord, fun _ => takesWord_wholeWord⟩
  case analysisTool =>
    exact ⟨fun _ => takesWord_wholeWord, fun _ => takesWord_condition,
      fun _ => takesWord_wholeWord, fun _ => takesWord_wholeWord, fun _ => takesWord_wholeWord,
      fun _ => takesWord_wholeWord, fun _ => takesWord_wholeWord⟩

theorem keywordRules_takeWord (dialect : Dialect) :
    ∀ rule ∈ keywordRules, ∀ text, 0 < rule.length text → TakesWord dialect rule text := by
  simp only [keywordRules, List.forall_mem_cons, List.not_mem_nil, false_imp_iff, implies_true,
    and_true]
  exact ⟨fun _ => takesWord_wholeWord, fun _ => takesWord_wholeWord⟩

theorem callRule_takesWord (dialect : Dialect) {text : List Char}
    (applies : 0 < (callRule dialect).length text) : TakesWord dialect (callRule dialect) text := by
  cases dialect with
  | decompiler =>
      obtain ⟨-, named, taken⟩ := take_callLength applies
      exact .call rfl rfl (taken.trans (congrArg (· ++ ['(']) (take_wholeWord named)))
  | analysisTool => exact .run (take_calledName applies)

theorem commonRules_takeWord (dialect : Dialect) :
    ∀ rule ∈ commonRules, rule.category.IsWord → ∀ text, 0 < rule.length text →
      TakesWord dialect rule text := by
  simp only [commonRules, List.forall_mem_cons, List.not_mem_nil, false_imp_iff, implies_true,
    and_true]
  simp only [Category.IsWord, List.mem_cons, List.not_mem_nil, reduceCtorEq, or_false, or_true,
    false_imp_iff, true_imp_iff, true_and, and_true]
  exact fun _ => takesWord_wholeWord

/-- A rule for words takes the whole word at the start of a text. -/
theorem Dialect.rules_takesWord {dialect : Dialect} {rule : Rule} (h : rule ∈ dialect.rules)
    (word : rule.category.IsWord) {text : List Char} (applies : 0 < rule.length text) :
    TakesWord dialect rule text := by
  have noLeadingWord : ∀ rule ∈ leadingRules, ¬rule.category.IsWord := by decide
  simp only [rules, List.mem_append, List.mem_cons] at h
  rcases h with ((leading | own) | keyword) | rfl | common
  · exact absurd word (noLeadingWord rule leading)
  · exact dialectRules_takeWord dialect rule own text applies
  · exact keywordRules_takeWord dialect rule keyword text applies
  · exact callRule_takesWord dialect applies
  · exact commonRules_takeWord dialect rule common word text applies

/-- The two categories of lexemes that hold a name as it was written. -/
def Category.IsNamed (category : Category) : Prop :=
  category = .identifier ∨ category = .nameFunction

instance (category : Category) : Decidable category.IsNamed :=
  inferInstanceAs (Decidable (category = .identifier ∨ category = .nameFunction))

theorem Category.IsNamed.isWord {category : Category} (h : category.IsNamed) : category.IsWord := by
  rcases h with rfl | rfl <;> decide

theorem Dialect.rules_takeWord {dialect : Dialect} {rule : Rule} (h : rule ∈ dialect.rules)
    (named : rule.category.IsNamed) {text : List Char} (applies : 0 < rule.length text) :
    text.take (rule.length text) = wordRun text ∨
      rule = callRule .decompiler ∧ dialect = .decompiler ∧
        text.take (rule.length text) = wordRun text ++ ['('] := by
  cases Dialect.rules_takesWord h named.isWord applies with
  | run taken => exact .inl taken
  | call same decompiled taken => exact .inr ⟨same, decompiled, taken⟩
  | condition condition =>
      rw [condition] at named
      exact absurd named (by decide)

/-! ## The first rule that applies -/

theorem firstMatch_cons_idle {rules : List Rule} {category : Category} {recogniser : Recogniser}
    {text : List Char} (idle : recogniser text = 0) :
    firstMatch (⟨category, recogniser⟩ :: rules) text = firstMatch rules text := by
  simp [firstMatch, idle]

theorem firstMatch_cons_of_eq {rules : List Rule} {category : Category} {recogniser : Recogniser}
    {text : List Char} {length : Nat} (taken : recogniser text = length) (positive : 0 < length) :
    firstMatch (⟨category, recogniser⟩ :: rules) text = some (category, length) := by
  simp [firstMatch, taken, positive]

theorem firstMatch_append (rules others : List Rule) (text : List Char) :
    firstMatch (rules ++ others) text = (firstMatch rules text).or (firstMatch others text) := by
  induction rules with
  | nil => rfl
  | cons rule rules ih =>
      simp only [List.cons_append, firstMatch]
      split
      · rfl
      · exact ih

theorem firstMatch_congr {rules : List Rule} {text other : List Char}
    (h : ∀ rule ∈ rules, rule.length text = rule.length other) :
    firstMatch rules text = firstMatch rules other := by
  induction rules with
  | nil => rfl
  | cons rule rules ih =>
      rw [List.forall_mem_cons] at h
      rw [firstMatch, firstMatch, h.1, ih h.2]

theorem firstMatch_of_idle {rules : List Rule} {text : List Char}
    (idle : ∀ rule ∈ rules, rule.length text = 0) : firstMatch rules text = none := by
  induction rules with
  | nil => rfl
  | cons rule rules ih =>
      have here := idle rule List.mem_cons_self
      rw [firstMatch]
      simp only [here, Nat.lt_irrefl, if_false]
      exact ih fun later member => idle later (List.mem_cons_of_mem rule member)

theorem firstMatch_of_mem {rules : List Rule} {rule : Rule} {text : List Char} (h : rule ∈ rules)
    (applies : 0 < rule.length text) : ∃ found, firstMatch rules text = some found := by
  induction rules with
  | nil => simp at h
  | cons first rules ih =>
      simp only [firstMatch]
      split
      · exact ⟨_, rfl⟩
      · next idle =>
          rcases List.mem_cons.mp h with rfl | later
          · exact absurd applies idle
          · exact ih later

theorem exists_rule_of_firstMatch {rules : List Rule} {text : List Char} {category : Category}
    {length : Nat} (h : firstMatch rules text = some (category, length)) :
    ∃ rule ∈ rules, rule.category = category ∧ rule.length text = length := by
  induction rules with
  | nil => simp [firstMatch] at h
  | cons first rules ih =>
      simp only [firstMatch] at h
      split at h
      · obtain ⟨rfl, rfl⟩ := Prod.mk.inj (Option.some.inj h)
        exact ⟨first, List.mem_cons_self, rfl, rfl⟩
      · obtain ⟨rule, member, same⟩ := ih h
        exact ⟨rule, List.mem_cons_of_mem first member, same⟩

/-- A character is blank, a decimal digit, the start of a name, or in no word, and each of the four
    has a rule among the common ones. -/
theorem exists_commonRule (c : Char) (rest : List Char) :
    ∃ rule ∈ commonRules, 0 < rule.length (c :: rest) := by
  cases blank : isBlank c with
  | true =>
      refine ⟨⟨.whitespace, blankLength⟩, by simp [commonRules], ?_⟩
      change 0 < blankLength (c :: rest)
      unfold blankLength
      split
      · exact Nat.zero_lt_two
      · simp [blank]
  | false =>
      cases digit : isDecimal c with
      | true =>
          refine ⟨⟨.number, decimalLength⟩, by simp [commonRules], ?_⟩
          have some : digitsLength (c :: rest) ≠ 0 := by simp [digitsLength, digit]
          simp only [decimalLength, if_neg some, suffixedLength, if_true]
          omega
      | false =>
          cases word : isWord c with
          | true =>
              refine ⟨⟨.identifier, nameLength⟩, by simp [commonRules], ?_⟩
              simp [nameLength, wholeWord, wordRun, isName, word, digit]
          | false =>
              exact ⟨⟨.other, oneChar fun c => !isBlank c && !isWord c⟩, by simp [commonRules],
                by simp [oneChar, blank, word]⟩

theorem Dialect.firstMatch_total (dialect : Dialect) (c : Char) (rest : List Char) :
    ∃ found, firstMatch dialect.rules (c :: rest) = some found := by
  obtain ⟨rule, member, applies⟩ := exists_commonRule c rest
  refine firstMatch_of_mem ?_ applies
  simp only [rules, List.mem_append, List.mem_cons]
  exact .inr (.inr member)

end SymbolCorpus.PseudoCode
