import SymbolCorpus.Proofs.Tokens

/-! # What is shown of a string literal

A literal is written with an encoding mark or none, a quote, its content, and the quote once more
unless the line ends before. The rules tell these parts from one another. What is shown is the text
without its first and its last character, and that is the content only where these two are the
quotes: behind an encoding mark the opening quote is shown too, and a literal that is cut off loses
its last character.
-/

namespace SymbolCorpus.PseudoCode

open Identifier

def isQuote (c : Char) : Bool := c = '"' || c = '\''

/-- A string literal as the rules take it. -/
inductive Literal where
  /-- The quote closes it. -/
  | closed (mark : List Char) (quote : Char) (content : List Char) (marked : mark ∈ encodingMarks)
      (quoted : isQuote quote = true) (valid : IsContent quote content)
  /-- The line ends, and no quote closes it. -/
  | cutOff (mark content : List Char) (marked : mark ∈ encodingMarks) (line : '\n' ∉ content)
      (unclosed : ∀ inner rest, content = inner ++ '"' :: rest → ¬IsContent '"' inner)

namespace Literal

/-- The literal as it is written. -/
def text : Literal → List Char
  | closed mark quote content .. => mark ++ quote :: (content ++ [quote])
  | cutOff mark content .. => mark ++ '"' :: content

/-- What stands between the quotes, or behind the one quote that there is. -/
def content : Literal → List Char
  | closed _ _ content .. => content
  | cutOff _ content .. => content

/-- The part of its text that is shown. -/
def shownPart : Literal → List Char
  | closed mark quote content .. => (mark ++ [quote]).tail ++ content
  | cutOff mark content .. => ((mark ++ ['"']).tail ++ content).dropLast

/-- The part that is shown is the content. -/
def IsWhole : Literal → Prop
  | closed mark .. => mark = []
  | cutOff mark content .. => content = [] ∧ mark ≠ ['u', '8']

end Literal

def spaced (text : List Char) : List Char := text.map fun c => if c = '_' then ' ' else c

/-- The token that shows a text. -/
def shownAs (text : List Char) : List Char := "\" ".toList ++ spaced text ++ " \"".toList

/-! ## The rules for literals -/

def literalRules : List Rule :=
  [⟨.string, closedLength '"'⟩, ⟨.string, openStringLength⟩, ⟨.string, closedLength '\''⟩]

theorem firstMatch_of_category {front rules back : List Rule} {text : List Char} {category : Category}
    {length : Nat} (before : ∀ rule ∈ front, rule.category ≠ category)
    (behind : ∀ rule ∈ back, rule.category ≠ category)
    (found : firstMatch (front ++ (rules ++ back)) text = some (category, length)) :
    firstMatch rules text = some (category, length) := by
  rw [firstMatch_append, firstMatch_append] at found
  rcases Option.or_eq_some_iff.mp found with early | ⟨-, later⟩
  · obtain ⟨rule, member, same, -⟩ := exists_rule_of_firstMatch early
    exact absurd same (before rule member)
  · rcases Option.or_eq_some_iff.mp later with here | ⟨-, late⟩
    · exact here
    · obtain ⟨rule, member, same, -⟩ := exists_rule_of_firstMatch late
      exact absurd same (behind rule member)

theorem firstMatch_literalRules {dialect : Dialect} {text : List Char} {length : Nat}
    (found : firstMatch dialect.rules text = some (.string, length)) :
    firstMatch literalRules text = some (.string, length) := by
  have parts : dialect.rules =
      (leadingRules ++ dialectRules dialect ++ keywordRules ++
        callRule dialect :: commonRules.take 4) ++ (literalRules ++ commonRules.drop 7) := by
    cases dialect <;> rfl
  rw [parts] at found
  exact firstMatch_of_category (by cases dialect <;> decide) (by decide) found

theorem take_openStringLength {text : List Char} (h : 0 < openStringLength text)
    (left : closedLength '"' text = 0) :
    ∃ mark ∈ encodingMarks, ∃ content, '\n' ∉ content ∧
      (∀ inner rest, content = inner ++ '"' :: rest → ¬IsContent '"' inner) ∧
      text.take (openStringLength text) = mark ++ '"' :: content := by
  cases opened : openedBy '"' text with
  | none => simp [openStringLength, opened] at h
  | some parts =>
      obtain ⟨opening, rest⟩ := parts
      rw [closedLength_of_opened opened] at left
      rw [openStringLength_of_opened opened]
      obtain ⟨mark, marked, rfl, rfl⟩ := openedBy_eq_some opened
      refine ⟨mark, marked, rest.takeWhile (· ≠ '\n'), ?_, ?_, ?_⟩
      · intro member
        simpa using List.mem_takeWhile_imp member
      · intro inner behind line valid
        have whole : rest = inner ++ '"' :: (behind ++ rest.dropWhile (· ≠ '\n')) := by
          rw [← List.cons_append, ← List.append_assoc, ← line, List.takeWhile_append_dropWhile]
        have closes : closingLength? '"' rest = some (inner.length + 1) := by
          rw [whole]
          exact closingLength?_of_isContent (by decide) valid _
        rw [closes, Option.map_some, Option.getD_some] at left
        omega
      · rw [List.take_length_add_append, lineLength, take_takeWhile_length, List.append_assoc]
        rfl

theorem exists_literal {dialect : Dialect} {text : List Char} {length : Nat}
    (found : firstMatch dialect.rules text = some (.string, length)) :
    ∃ literal : Literal, literal.text = text.take length := by
  have taken := firstMatch_literalRules found
  simp only [literalRules, firstMatch] at taken
  split at taken
  · next double =>
      obtain ⟨mark, marked, content, valid, spelled⟩ := take_closedLength double
      obtain ⟨-, rfl⟩ := Prod.mk.inj (Option.some.inj taken)
      exact ⟨.closed mark '"' content marked rfl valid, spelled.symm⟩
  · next left =>
      split at taken
      · next opens =>
          obtain ⟨mark, marked, content, line, unclosed, spelled⟩ :=
            take_openStringLength opens (Nat.eq_zero_of_not_pos left)
          obtain ⟨-, rfl⟩ := Prod.mk.inj (Option.some.inj taken)
          exact ⟨.cutOff mark content marked line unclosed, spelled.symm⟩
      · split at taken
        · next single =>
            obtain ⟨mark, marked, content, valid, spelled⟩ := take_closedLength single
            obtain ⟨-, rfl⟩ := Prod.mk.inj (Option.some.inj taken)
            exact ⟨.closed mark '\'' content marked rfl valid, spelled.symm⟩
        · cases taken

/-! ## The parts of a literal -/

theorem takeWhile_mark {mark : List Char} (marked : mark ∈ encodingMarks) {quote : Char}
    (quoted : isQuote quote = true) (rest : List Char) :
    (mark ++ quote :: rest).takeWhile (!isQuote ·) = mark := by
  have unquoted : ∀ mark ∈ encodingMarks, mark.all (!isQuote ·) = true := by decide
  rw [List.takeWhile_append_of_pos (List.all_eq_true.mp (unquoted mark marked)),
    List.takeWhile_cons_of_neg (by simp [quoted]), List.append_nil]

theorem opening_inj {mark other rest behind : List Char} {quote mate : Char}
    (marked : mark ∈ encodingMarks) (markedOther : other ∈ encodingMarks)
    (quoted : isQuote quote = true) (quotedMate : isQuote mate = true)
    (same : mark ++ quote :: rest = other ++ mate :: behind) :
    mark = other ∧ quote = mate ∧ rest = behind := by
  have first : mark = other := by
    rw [← takeWhile_mark marked quoted rest, same, takeWhile_mark markedOther quotedMate]
  subst first
  exact ⟨rfl, List.cons.inj (List.append_cancel_left same)⟩

namespace Literal

/-- The parts of a literal can be told from its text. -/
theorem text_injective : Function.Injective text := by
  intro literal other same
  cases literal with
  | closed mark quote content marked quoted valid =>
      cases other with
      | closed mark' quote' content' marked' quoted' valid' =>
          obtain ⟨rfl, rfl, ends⟩ := opening_inj marked marked' quoted quoted' same
          obtain rfl := List.append_cancel_right ends
          rfl
      | cutOff mark' content' marked' line unclosed =>
          obtain ⟨rfl, rfl, ends⟩ := opening_inj marked marked' quoted rfl same
          exact absurd valid (unclosed content [] ends.symm)
  | cutOff mark content marked line unclosed =>
      cases other with
      | closed mark' quote' content' marked' quoted' valid' =>
          obtain ⟨rfl, rfl, ends⟩ := opening_inj marked marked' rfl quoted' same
          exact absurd valid' (unclosed content' [] ends)
      | cutOff mark' content' marked' line' unclosed' =>
          obtain ⟨rfl, -, rfl⟩ := opening_inj marked marked' rfl rfl same
          rfl

theorem literalBody_text (literal : Literal) : literalBody literal.text = literal.shownPart := by
  -- The first character is the quote only where there is no mark.
  cases literal with
  | closed mark quote content =>
      cases mark with
      | nil => exact List.dropLast_concat
      | cons c mark =>
          change (mark ++ quote :: (content ++ [quote])).dropLast = mark ++ [quote] ++ content
          rw [← List.cons_append, ← List.append_assoc, List.dropLast_concat, List.append_cons]
  | cutOff mark content =>
      cases mark with
      | nil => rfl
      | cons c mark =>
          change (mark ++ '"' :: content).dropLast = (mark ++ ['"'] ++ content).dropLast
          rw [← List.append_cons]

end Literal

theorem spaced_length (text : List Char) : (spaced text).length = text.length := List.length_map ..

theorem shownAs_inj {text other : List Char} :
    shownAs text = shownAs other ↔ spaced text = spaced other := by
  simp [shownAs]

/-- The content is shown as it is only of a closed literal without a mark, and of a quote that nothing
    follows. -/
theorem Literal.spaced_shownPart_iff (literal : Literal) :
    spaced literal.shownPart = spaced literal.content ↔ literal.IsWhole := by
  cases literal with
  | closed mark quote content =>
      constructor
      · intro same
        have lengths := congrArg List.length same
        simpa [spaced_length, shownPart, Literal.content, IsWhole] using lengths
      · intro unmarked
        obtain rfl : mark = [] := unmarked
        rfl
  | cutOff mark content marked line unclosed =>
      constructor
      · intro same
        have lengths := congrArg List.length same
        simp only [spaced_length, shownPart, Literal.content, List.length_dropLast, List.length_append,
          List.length_tail, List.length_singleton] at lengths
        cases content with
        | nil =>
            refine ⟨rfl, ?_⟩
            rintro rfl
            cases lengths
        | cons c content =>
            -- With a mark of one character the quote would have to be the first of the content.
            rw [List.length_cons] at lengths
            obtain ⟨letter, rfl⟩ := List.length_eq_one_iff.mp (show mark.length = 1 by omega)
            have first : '"' = if c = '_' then ' ' else c := (List.cons.inj same).1
            split at first
            · cases first
            · subst first
              exact absurd .nil (unclosed [] content rfl)
      · rintro ⟨rfl, narrow⟩
        simp only [encodingMarks, List.mem_cons, List.not_mem_nil, or_false] at marked
        rcases marked with rfl | rfl | rfl | rfl | rfl
        · rfl
        · exact absurd rfl narrow
        · rfl
        · rfl
        · rfl

/-! ## Literals among other lexemes -/

theorem renderFragments_loneLiteral_inv {segmenter : Segmenter} {options : TokenOptions}
    {before after : List Lexeme} {lexeme : Lexeme} {tokens : List (List Char)}
    (rendered : renderFragments segmenter options none (fragments (before ++ lexeme :: after)) =
      .ok tokens)
    (string : lexeme.category = .string) (begins : ∀ last ∈ before.getLast?, last.category ≠ .string)
    (ends : ∀ next ∈ after.head?, next.category ≠ .string) :
    ∃ earlier later, renderFragments segmenter options none (fragments before) = .ok earlier ∧
      renderFragments segmenter options (definedBy options.dialect before) (fragments after) =
        .ok later ∧
      tokens = earlier ++ renderLiteral options lexeme.text :: later := by
  rw [fragments_append_of_apart fun last member alsoString => absurd alsoString (begins last member),
    fragments_of_string_alone string ends] at rendered
  obtain ⟨earlier, inner, left, right, rfl⟩ := renderFragments_append_inv rendered
  rw [findSome?_fragments, Option.none_or, renderFragments_literal] at right
  obtain ⟨later, behind, rfl⟩ := map_eq_ok right
  exact ⟨earlier, later, left, behind, rfl⟩

/-- Wherever a text has a string literal with lexemes of other kinds around it, its token shows the
    part of its text between the first and the last character, and that is its content in no more
    than two cases: a quote closes it and no encoding mark precedes it, or nothing follows its quote
    and the mark before it, if any, is one character. -/
theorem token_of_loneLiteral (segmenter : Segmenter) (dialect : Dialect) (keepCalls : Bool)
    (source : List Char) :
    ∃ lexemes tokens, lex dialect source = .ok lexemes ∧
      tokenize segmenter ⟨dialect, true, keepCalls⟩ source = .ok tokens ∧
      ∀ before lexeme after, lexemes = before ++ lexeme :: after → lexeme.category = .string →
        (∀ last ∈ before.getLast?, last.category ≠ .string) →
        (∀ next ∈ after.head?, next.category ≠ .string) →
        ∃ (literal : Literal) (earlier later : List (List Char)),
          (literal.text = lexeme.text ∧ ∀ other : Literal, other.text = lexeme.text → other = literal) ∧
          renderFragments segmenter ⟨dialect, true, keepCalls⟩ none (fragments before) = .ok earlier ∧
          renderFragments segmenter ⟨dialect, true, keepCalls⟩ (definedBy dialect before)
            (fragments after) = .ok later ∧
          tokens = earlier ++ shownAs literal.shownPart :: later ∧
          (shownAs literal.shownPart = shownAs literal.content ↔ literal.IsWhole) := by
  obtain ⟨lexemes, tokens, run, rendered⟩ :=
    exists_rendering segmenter ⟨dialect, true, keepCalls⟩ source
  refine ⟨lexemes, tokens, run, (tokenize_of_lex run).trans rendered, ?_⟩
  rintro before lexeme after rfl string begins ends
  obtain ⟨rest, -, entered⟩ := lexFrom_append_inv run
  obtain ⟨length, found, taken, -⟩ := lexFrom_cons_inv entered
  rw [string] at found
  obtain ⟨literal, spelled⟩ := exists_literal found
  rw [← taken] at spelled
  obtain ⟨earlier, later, left, right, rfl⟩ :=
    renderFragments_loneLiteral_inv rendered string begins ends
  refine ⟨literal, earlier, later, ⟨spelled, fun other same => ?_⟩, left, right, ?_, ?_⟩
  · exact Literal.text_injective (same.trans spelled.symm)
  · rw [← spelled, ← literal.literalBody_text]
    rfl
  · rw [shownAs_inj, literal.spaced_shownPart_iff]

theorem lex_wideLiteral : lex .decompiler "x=L\"a_b\";".toList =
    .ok [⟨.identifier, ['x'], 0⟩, ⟨.operator, ['='], 1⟩, ⟨.string, "L\"a_b\"".toList, 2⟩,
      ⟨.punctuation, [';'], 8⟩] :=
  lex_of_lexesAs (by decide) (by decide)

def wideLiteral : Literal :=
  .closed ['L'] '"' "a_b".toList (by decide) rfl
    (.plain (by decide) (by decide) (by decide) (.plain (by decide) (by decide) (by decide)
      (.plain (by decide) (by decide) (by decide) .nil)))

/-- Behind an encoding mark the quote is shown as if it were content. -/
theorem quote_shown_of_wideLiteral :
    ∃ lexemes tokens, lex .decompiler "x=L\"a_b\";".toList = .ok lexemes ∧
      tokenize .plain .standard "x=L\"a_b\";".toList = .ok tokens ∧
      ∃ before lexeme after, lexemes = before ++ lexeme :: after ∧ lexeme.category = .string ∧
        (∀ last ∈ before.getLast?, last.category ≠ .string) ∧
        (∀ next ∈ after.head?, next.category ≠ .string) ∧
        wideLiteral.text = lexeme.text ∧ shownAs "\"a_b".toList ∈ tokens ∧
        shownAs "\"a_b".toList ≠ shownAs wideLiteral.content := by
  obtain ⟨lexemes, tokens, run, rendered, place⟩ :=
    token_of_loneLiteral .plain .decompiler true "x=L\"a_b\";".toList
  obtain rfl := Except.ok.inj (lex_wideLiteral.symm.trans run)
  have begins : ∀ last ∈ [(⟨.identifier, ['x'], 0⟩ : Lexeme), ⟨.operator, ['='], 1⟩].getLast?,
      last.category ≠ .string := by
    decide
  have ends : ∀ next ∈ [(⟨.punctuation, [';'], 8⟩ : Lexeme)].head?, next.category ≠ .string := by
    decide
  refine ⟨_, tokens, run, rendered, [_, _], _, [_], rfl, rfl, begins, ends, rfl, ?_⟩
  obtain ⟨literal, earlier, later, ⟨-, only⟩, -, -, rfl, shown⟩ :=
    place [_, _] _ [_] rfl rfl begins ends
  obtain rfl := only wideLiteral rfl
  exact ⟨List.mem_append_right earlier List.mem_cons_self,
    fun same => List.cons_ne_nil 'L' [] (shown.mp same)⟩

end SymbolCorpus.PseudoCode
