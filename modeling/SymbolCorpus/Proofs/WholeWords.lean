import SymbolCorpus.Proofs.OwnName

/-! # Words are lexed whole

Keywords, types and names of every kind are whole words of the text: no word character stands behind
one, and one stands before it only as the end of a number. What no number precedes begins where no
word goes on, and a rule for words goes on to where the word ends.
-/

namespace SymbolCorpus.PseudoCode

open Text

/-- The word of a lexeme, which is its text without the parenthesis of a call. -/
def Lexeme.word (lexeme : Lexeme) : List Char := (callParts lexeme.text).1

/-- The word of a lexeme is a word of the text, or a condition whose number is one. -/
inductive Lexeme.IsSpelled (lexeme : Lexeme) : Prop where
  | word : lexeme.word ≠ [] → (∀ c ∈ lexeme.word, isWord c = true) → IsSpelled lexeme
  | condition {number : List Char} : lexeme.category = .nameCondition → number ≠ [] →
      (∀ c ∈ number, isWord c = true) → lexeme.word = "cond:".toList ++ number →
      IsSpelled lexeme

/-- A lexeme between the lexemes before it and the text behind its word is not cut out of a longer
    word. -/
structure IsWhole (before : List Lexeme) (lexeme : Lexeme) (behind : List Char) : Prop where
  spelled : lexeme.IsSpelled
  ends : ∀ next ∈ behind.head?, isWord next = false
  begins : ∀ last ∈ (cover before).getLast?, isWord last = true →
    ∃ number ∈ before.getLast?, number.category = .number

theorem wordRun_words (text : List Char) : ∀ c ∈ wordRun text, isWord c = true :=
  fun _ => List.mem_takeWhile_imp

theorem wordRun_append_dropWhile (text : List Char) : wordRun text ++ text.dropWhile isWord = text :=
  List.takeWhile_append_dropWhile

theorem Lexeme.IsSpelled.exists_first {lexeme : Lexeme} (h : lexeme.IsSpelled) :
    ∃ first ∈ lexeme.word.head?, isWord first = true := by
  cases h with
  | word nonempty words =>
      obtain ⟨first, others, same⟩ := List.exists_cons_of_ne_nil nonempty
      exact ⟨first, by rw [same]; rfl, words first (by rw [same]; exact List.mem_cons_self)⟩
  | condition _ _ _ same => exact ⟨'c', by rw [same]; rfl, by decide⟩

theorem exists_behind_of_wordRun {lexeme : Lexeme} {text : List Char}
    (same : lexeme.word = wordRun text) (nonempty : wordRun text ≠ []) :
    ∃ behind, text = lexeme.word ++ behind ∧ lexeme.IsSpelled ∧
      ∀ next ∈ behind.head?, isWord next = false := by
  refine ⟨text.dropWhile isWord, ?_, .word ?_ ?_, fun _ => head?_dropWhile_eq_false⟩
  · rw [same, wordRun_append_dropWhile]
  · rwa [same]
  · rw [same]
    exact wordRun_words text

theorem exists_behind_word {dialect : Dialect} {offset : Nat} {text : List Char} {lexeme : Lexeme}
    {after : List Lexeme} (h : lexFrom dialect.rules offset text = .ok (lexeme :: after))
    (word : lexeme.category.IsWord) :
    ∃ behind, text = lexeme.word ++ behind ∧ lexeme.IsSpelled ∧
      ∀ next ∈ behind.head?, isWord next = false := by
  obtain ⟨length, found, taken, nonempty, -⟩ := lexFrom_cons_inv h
  have applies := firstMatch_pos found
  obtain ⟨rule, member, category, rfl⟩ := exists_rule_of_firstMatch found
  cases Dialect.rules_takesWord member (category ▸ word) applies with
  | run whole =>
      rw [whole] at taken
      refine exists_behind_of_wordRun ?_ (taken ▸ nonempty)
      rw [Lexeme.word, taken, callParts_word (wordRun_words text)]
  | call rule _ whole =>
      subst rule
      rw [whole] at taken
      obtain ⟨-, named, -⟩ := take_callLength applies
      refine exists_behind_of_wordRun ?_ fun none => ?_
      · rw [Lexeme.word, taken, callParts_call]
      · rw [nameLength, wholeWord_of_rejected none rfl] at named
        exact Nat.lt_irrefl 0 named
  | @condition rest condition stemmed numbered whole =>
      rw [whole] at taken
      have ends : ∀ last ∈ lexeme.text.getLast?, isWord last = true := by
        rw [taken, List.getLast?_append_of_ne_nil _ numbered]
        exact fun last member => wordRun_words rest last (List.mem_of_getLast? member)
      have same : lexeme.word = "cond:".toList ++ wordRun rest := by
        rw [Lexeme.word, callParts_of_last ends, taken]
      refine ⟨rest.dropWhile isWord, ?_, .condition (category ▸ condition) numbered
        (wordRun_words rest) same, fun _ => head?_dropWhile_eq_false⟩
      rw [same, List.append_assoc, wordRun_append_dropWhile, stemmed]

/-- Keywords, types and names of every kind are whole words of a text: without the parenthesis of a
    call, no word character stands behind one, and one stands before it only at the end of a
    number. -/
theorem lex_wholeWords (dialect : Dialect) (text : List Char) :
    ∃ lexemes, lex dialect text = .ok lexemes ∧
      ∀ before lexeme after, lexemes = before ++ lexeme :: after → lexeme.category.IsWord →
        ∃ behind, text = cover before ++ (lexeme.word ++ behind) ∧
          IsWhole before lexeme behind := by
  obtain ⟨lexemes, run⟩ := lexFrom_total dialect.firstMatch_total 0 text
  refine ⟨lexemes, run, ?_⟩
  rintro before lexeme after rfl word
  obtain ⟨rest, placed, entered⟩ := lexFrom_append_inv run
  obtain ⟨behind, spelled, whole, ends⟩ := exists_behind_word entered word
  refine ⟨behind, by rw [placed, spelled], whole, ends, ?_⟩
  intro last atEnd goesOn
  obtain ⟨first, atStart, word⟩ := whole.exists_first
  have starts : first ∈ rest.head? := by
    rw [spelled, List.head?_append, Option.mem_def.mp atStart]
    rfl
  by_contra unnumbered
  have parted := lexFrom_parted run (fun previous member isNumber =>
    unnumbered ⟨previous, member, isNumber⟩) rest placed last atEnd first starts goesOn
  rw [word] at parted
  cases parted

/-- The lexemes of a number with a function's name and a type directly behind one another. -/
def joinedNames : List Lexeme :=
  [⟨.number, ['2'], 0⟩, ⟨.nameFunction, "int_if(".toList, 1⟩, ⟨.keywordType, "__int64".toList, 8⟩,
    ⟨.punctuation, [')'], 15⟩]

/-- A name that a keyword begins and another ends is one word, also behind a number. -/
theorem lex_joinedNames :
    lex .decompiler "2int_if(__int64)".toList = .ok joinedNames ∧
      ∃ behind, "2int_if(__int64)".toList = "2int_if".toList ++ behind ∧
        IsWhole [⟨.number, ['2'], 0⟩] ⟨.nameFunction, "int_if(".toList, 1⟩ behind := by
  have run : lex .decompiler "2int_if(__int64)".toList = .ok joinedNames :=
    lex_of_lexesAs (by decide) (by decide)
  obtain ⟨lexemes, again, whole⟩ := lex_wholeWords .decompiler "2int_if(__int64)".toList
  obtain rfl := Except.ok.inj (run.symm.trans again)
  obtain ⟨behind, placed, isWhole⟩ := whole [_] _ _ rfl (by decide)
  exact ⟨run, behind, placed, isWhole⟩

end SymbolCorpus.PseudoCode
