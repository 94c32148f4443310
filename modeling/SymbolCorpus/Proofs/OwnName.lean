import SymbolCorpus.Proofs.Lexing
import SymbolCorpus.Proofs.Masking

/-! # Where a masked name can still be read

Masking a function's own name hides it wherever the mask and the lexer agree on
what a whole word is. They disagree next to numbers: the mask takes a digit or a
number sign for the continuation of a name, the lexer cuts behind it. They also
disagree about combining marks, through which masking one word can spell another.
The lexemes that still hold the name are exactly those at such places.
-/

namespace SymbolCorpus.PseudoCode

open Text

/-- A name as the lexer reads it: word characters, of which the first is no digit. -/
def isWrittenName : List Char → Bool
  | c :: rest => isNameStart c && rest.all isWord
  | [] => false

/-- The lexeme is a name, and without the parenthesis of a call it is this one. -/
def Lexeme.Holds (lexeme : Lexeme) (name : List Char) : Prop :=
  lexeme.category.IsNamed ∧ (callParts lexeme.text).1 = name

/-- The ways in which a name is left standing between the lexemes before it and the text behind it
    when a source is masked. -/
inductive Exposed (name source : List Char) (before : List Lexeme) (behind : List Char) : Prop where
  /-- The lexer cuts behind a number, where the mask sees the middle of an identifier. -/
  | behindNumber {number : Lexeme} :
      number ∈ before.getLast? → number.category = .number → Exposed name source before behind
  /-- A number sign directly before the name belongs to it for the mask only. -/
  | behindSign {c : Char} :
      c ∈ (cover before).getLast? → isNumberSign c = true → Exposed name source before behind
  /-- A number sign directly behind the name belongs to it for the mask only. -/
  | beforeSign {c : Char} :
      c ∈ behind.head? → isNumberSign c = true → Exposed name source before behind
  /-- Another word of the source becomes the name by being masked. -/
  | remade {word : List Char} :
      IsRun source word → word ≠ name → mask name word = name → Exposed name source before behind

theorem isWrittenName_words {name : List Char} (h : isWrittenName name = true) :
    name ≠ [] ∧ ∀ c ∈ name, isWord c = true := by
  cases name with
  | nil => cases h
  | cons c rest =>
      simp only [isWrittenName, isNameStart, Bool.and_eq_true, List.all_eq_true] at h
      refine ⟨List.cons_ne_nil c rest, fun d member => ?_⟩
      rcases List.mem_cons.mp member with rfl | inRest
      · exact h.1.1
      · exact h.2 d inRest

theorem callParts_of_last {text : List Char} (h : ∀ last ∈ text.getLast?, isWord last = true) :
    callParts text = (text, false) := by
  unfold callParts
  split
  · next parenthesis => exact absurd (h '(' parenthesis) (by decide)
  · rfl

theorem callParts_of_words {word : List Char} (h : ∀ c ∈ word, isWord c = true) :
    callParts word = (word, false) :=
  callParts_of_last fun last member => h last (List.mem_of_getLast? member)

theorem callParts_word {word : List Char} (h : ∀ c ∈ word, isWord c = true) :
    (callParts word).1 = word := by
  rw [callParts_of_words h]

theorem callParts_concat (word : List Char) : callParts (word ++ ['(']) = (word, true) := by
  simp [callParts]

theorem callParts_call (word : List Char) : (callParts (word ++ ['('])).1 = word := by
  rw [callParts_concat]

theorem text_of_isNamed {dialect : Dialect} {offset : Nat} {text : List Char} {lexeme : Lexeme}
    {after : List Lexeme} (h : lexFrom dialect.rules offset text = .ok (lexeme :: after))
    (named : lexeme.category.IsNamed) :
    lexeme.text = wordRun text ∨ lexeme.category = .nameFunction ∧ dialect = .decompiler ∧
      lexeme.text = wordRun text ++ ['('] := by
  obtain ⟨length, found, taken, -⟩ := lexFrom_cons_inv h
  have applies := firstMatch_pos found
  obtain ⟨rule, member, sameCategory, rfl⟩ := exists_rule_of_firstMatch found
  rw [taken, ← sameCategory]
  rcases Dialect.rules_takeWord member (sameCategory ▸ named) applies with
    word | ⟨rfl, decompiled, call⟩
  · exact .inl word
  · exact .inr ⟨rfl, decompiled, call⟩

theorem callParts_of_isNamed {dialect : Dialect} {offset : Nat} {text : List Char} {lexeme : Lexeme}
    {after : List Lexeme} (h : lexFrom dialect.rules offset text = .ok (lexeme :: after))
    (named : lexeme.category.IsNamed) : (callParts lexeme.text).1 = wordRun text := by
  rcases text_of_isNamed h named with word | ⟨-, -, call⟩
  · rw [word]
    exact callParts_word fun c => List.mem_takeWhile_imp
  · rw [call, callParts_call]

theorem wordRun_append {word behind : List Char} (hw : ∀ c ∈ word, isWord c = true)
    (hb : ∀ c ∈ behind.head?, isWord c = false) : wordRun (word ++ behind) = word :=
  takeWhile_append_of_ends hw hb

/-- The lexeme behind others is a name, and where it begins masking the source left this name
    standing as a whole word. -/
structure LeftStanding (name source : List Char) (before : List Lexeme) (lexeme : Lexeme) : Prop where
  named : lexeme.category.IsNamed
  standing : ∃ behind, mask name source = cover before ++ (name ++ behind) ∧
    (∀ next ∈ behind.head?, isWord next = false) ∧ Exposed name source before behind

/-- A name that stands between two texts of a masked source is exposed, unless a word goes on
    before it. -/
theorem exposed_of_standing {name source behind : List Char} {before : List Lexeme}
    (nonempty : name ≠ []) (words : ∀ c ∈ name, isWord c = true) (unlike : name ≠ maskedName)
    (masked : mask name source = cover before ++ (name ++ behind))
    (ends : ∀ next ∈ behind.head?, isWord next = false)
    (begins : (∀ previous ∈ before.getLast?, previous.category ≠ .number) →
      ∀ last ∈ (cover before).getLast?, isWord last = false) :
    Exposed name source before behind := by
  by_cases numbered : ∃ number ∈ before.getLast?, number.category = .number
  · obtain ⟨number, atEnd, isNumber⟩ := numbered
    exact .behindNumber atEnd isNumber
  have starts := begins fun previous atEnd same => numbered ⟨previous, atEnd, same⟩
  by_cases left : ∃ c ∈ (cover before).getLast?, isIdentifierChar c = true
  · obtain ⟨c, atEnd, joined⟩ := left
    exact .behindSign atEnd (isNumberSign_of_isIdentifierChar joined (starts c atEnd))
  by_cases right : ∃ c ∈ behind.head?, isIdentifierChar c = true
  · obtain ⟨c, atStart, joined⟩ := right
    exact .beforeSign atStart (isNumberSign_of_isIdentifierChar joined (ends c atStart))
  have apart : Apart (cover before) behind := by
    constructor
    · intro c atEnd
      cases joined : isIdentifierChar c with
      | true => exact absurd ⟨c, atEnd, joined⟩ left
      | false => simp [isNamePart, starts c atEnd, joined]
    · intro c atStart
      cases joined : isIdentifierChar c with
      | true => exact absurd ⟨c, atStart, joined⟩ right
      | false => simp [isNamePart, ends c atStart, joined]
  have parts : AllNameParts name := fun c member => isNamePart_of_isWord (words c member)
  obtain ⟨word, isRun, remade⟩ := exists_run_of_mask parts nonempty parts
    (by rw [masked, List.append_assoc]) apart
  refine .remade isRun ?_ remade
  rintro rfl
  exact unlike (remade.symm.trans (mask_self nonempty))

/-- The lexemes of a masked source that still hold the name are exactly the names that masking left
    standing exposed: behind a number, beside a number sign, or made anew out of another word. -/
theorem holds_iff_leftStanding {name : List Char} (written : isWrittenName name = true)
    (unlike : name ≠ maskedName) (dialect : Dialect) (source : List Char) :
    ∃ lexemes, lex dialect (mask name source) = .ok lexemes ∧
      ∀ before lexeme after, lexemes = before ++ lexeme :: after →
        (lexeme.Holds name ↔ LeftStanding name source before lexeme) := by
  obtain ⟨nonempty, words⟩ := isWrittenName_words written
  obtain ⟨lexemes, run⟩ := lexFrom_total dialect.firstMatch_total 0 (mask name source)
  refine ⟨lexemes, run, ?_⟩
  rintro before lexeme after rfl
  obtain ⟨rest, left, later⟩ := lexFrom_append_inv run
  constructor
  · rintro ⟨named, same⟩
    rw [callParts_of_isNamed later named] at same
    have cut : rest = name ++ rest.dropWhile isWord := by
      rw [← same]
      exact List.takeWhile_append_dropWhile.symm
    have masked := left.trans (congrArg (cover before ++ ·) cut)
    have ends : ∀ next ∈ (rest.dropWhile isWord).head?, isWord next = false :=
      fun _ => head?_dropWhile_eq_false
    refine ⟨named, _, masked, ends, exposed_of_standing nonempty words unlike masked ends ?_⟩
    intro unnumbered last atEnd
    obtain ⟨first, others, rfl⟩ := List.exists_cons_of_ne_nil nonempty
    have goesOn : isWord first = true := words first List.mem_cons_self
    by_contra word
    have stops := lexFrom_parted run unnumbered rest left last atEnd first (by rw [cut]; rfl)
      (Bool.not_eq_false _ ▸ word)
    rw [goesOn] at stops
    cases stops
  · rintro ⟨named, behind, masked, ends, -⟩
    have cut : rest = name ++ behind := List.append_cancel_left (left.symm.trans masked)
    refine ⟨named, ?_⟩
    rw [callParts_of_isNamed later named, cut, wordRun_append words ends]

theorem lex_main : lex .decompiler (mask "main".toList "1main".toList) =
    .ok [⟨.number, ['1'], 0⟩, ⟨.identifier, "main".toList, 1⟩] :=
  lex_of_lexesAs (by decide) (by decide)

/-- Behind a number a name is left standing. -/
theorem holds_main_behind_number :
    isWrittenName "main".toList = true ∧ "main".toList ≠ maskedName ∧
      ∃ lexemes, lex .decompiler (mask "main".toList "1main".toList) = .ok lexemes ∧
        ∃ before lexeme after, lexemes = before ++ lexeme :: after ∧
          lexeme.Holds "main".toList ∧ LeftStanding "main".toList "1main".toList before lexeme := by
  have written : isWrittenName "main".toList = true := by decide
  have unlike : "main".toList ≠ maskedName := by decide
  obtain ⟨lexemes, run, exact⟩ := holds_iff_leftStanding written unlike .decompiler "1main".toList
  obtain rfl := Except.ok.inj (lex_main.symm.trans run)
  have holds : Lexeme.Holds ⟨.identifier, "main".toList, 1⟩ "main".toList := ⟨.inl rfl, by decide⟩
  exact ⟨written, unlike, _, run, [_], _, [], rfl, holds, (exact [_] _ [] rfl).mp holds⟩

end SymbolCorpus.PseudoCode
