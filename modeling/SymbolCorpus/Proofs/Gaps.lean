import SymbolCorpus.Proofs.Masking
import SymbolCorpus.Proofs.Rules

/-! # Where rules stop

White space and parentheses are part of no word and no number. A rule for these takes as much of a
text as if the text ended where such a character stands, so that what it takes has none of them, and
nothing behind them has a say in it.
-/

namespace SymbolCorpus.PseudoCode

open Text

/-- White space and parentheses. -/
def isGap (c : Char) : Bool := isBlank c || c = '(' || c = ')'

/-- A recogniser that a character always stops. -/
structure StopsAt (gap : Char) (recogniser : Recogniser) : Prop where
  append : ∀ text rest, recogniser (text ++ gap :: rest) = recogniser text
  le : ∀ text, recogniser text ≤ text.length

theorem StopsAt.not_mem {gap : Char} {recogniser : Recogniser} (h : StopsAt gap recogniser)
    (text : List Char) : gap ∉ text.take (recogniser text) := by
  intro member
  obtain ⟨before, behind, rfl, absent⟩ :=
    List.eq_append_cons_of_mem (List.mem_of_mem_take member)
  rw [h.append, List.take_append_of_le_length (h.le before)] at member
  exact absent (List.mem_of_mem_take member)

/-! ## Characters -/

theorem isWord_eq_false_of_isGap {gap : Char} (h : isGap gap = true) : isWord gap = false := by
  simp only [isGap, Bool.or_eq_true, decide_eq_true_eq] at h
  rcases h with (blank | rfl) | rfl
  · exact isWord_eq_false_of_isBlank blank
  · decide
  · decide

theorem isHexDigit_words : ∀ code < 0x80, isHexDigit (Char.ofNat code) = true →
    isWord (Char.ofNat code) = true := by
  decide +kernel

theorem toNat_lt_of_isHexDigit {c : Char} (h : isHexDigit c = true) : c.toNat < 0x80 := by
  have code (d : Char) : d.val.toNat = d.toNat := rfl
  simp only [isHexDigit, Char.isDigit, Bool.or_eq_true, Bool.and_eq_true, decide_eq_true_eq,
    Char.le_def, UInt32.le_iff_toNat_le, ge_iff_le, code, Char.reduceToNat] at h
  omega

theorem isWord_of_isHexDigit {c : Char} (h : isHexDigit c = true) : isWord c = true := by
  simpa using isHexDigit_words c.toNat (toNat_lt_of_isHexDigit h) (by simpa using h)

theorem isHexDigit_of_isOctalDigit {c : Char} (h : isOctalDigit c = true) : isHexDigit c = true := by
  simp only [isOctalDigit, Bool.and_eq_true, decide_eq_true_eq] at h
  have digit : c.isDigit = true := by
    simp only [Char.isDigit, Bool.and_eq_true, decide_eq_true_eq]
    exact ⟨h.1, Char.le_trans h.2 (by decide)⟩
  simp [isHexDigit, digit]

section Gap

variable {gap : Char} (h : isGap gap = true)
include h

theorem ne_of_isGap {c : Char} (other : isGap c = false) : gap ≠ c := by
  rintro rfl
  rw [h] at other
  cases other

theorem not_mem_of_isGap {text : List Char} (others : text.any isGap = false) : gap ∉ text := by
  intro member
  exact List.any_eq_false.mp others gap member h

theorem contains_eq_false_of_isGap {text : List Char} (others : text.any isGap = false) :
    text.contains gap = false := by
  simpa using not_mem_of_isGap h others

theorem isDecimal_eq_false_of_isGap : isDecimal gap = false := by
  have word := isWord_eq_false_of_isGap h
  cases digit : isDecimal gap with
  | false => rfl
  | true => simp [isWord, digit] at word

theorem isHexDigit_eq_false_of_isGap : isHexDigit gap = false := by
  cases digit : isHexDigit gap with
  | false => rfl
  | true =>
      have word := isWord_of_isHexDigit digit
      rw [isWord_eq_false_of_isGap h] at word
      cases word

theorem isOctalDigit_eq_false_of_isGap : isOctalDigit gap = false := by
  cases digit : isOctalDigit gap with
  | false => rfl
  | true =>
      have hex := isHexDigit_of_isOctalDigit digit
      rw [isHexDigit_eq_false_of_isGap h] at hex
      cases hex

end Gap

/-! ## Runs -/

theorem takeWhile_append_gap {p : Char → Bool} {gap : Char} (h : p gap = false)
    (text rest : List Char) : (text ++ gap :: rest).takeWhile p = text.takeWhile p := by
  induction text with
  | nil => simp [h]
  | cons c text ih => cases hc : p c <;> simp [hc, ih]

theorem length_takeWhile_le (p : Char → Bool) (text : List Char) :
    (text.takeWhile p).length ≤ text.length :=
  (List.takeWhile_sublist p).length_le

theorem stopsAt_takeWhile {gap : Char} {p : Char → Bool} (h : p gap = false) :
    StopsAt gap fun text => (text.takeWhile p).length where
  append text rest := by rw [takeWhile_append_gap h]
  le := length_takeWhile_le p

theorem stopsAt_oneChar {gap : Char} {test : Char → Bool} (h : test gap = false) :
    StopsAt gap (oneChar test) where
  append text rest := by cases text <;> simp [oneChar, h]
  le text := by
    cases text with
    | nil => simp [oneChar]
    | cons c rest =>
        simp only [oneChar, List.length_cons]
        split <;> omega

theorem isPrefixOf_append_gap {gap : Char} {found : List Char} (h : gap ∉ found)
    (text rest : List Char) : found.isPrefixOf (text ++ gap :: rest) = found.isPrefixOf text := by
  rw [← List.isSome_isPrefixOf?_eq_isPrefixOf, ← List.isSome_isPrefixOf?_eq_isPrefixOf,
    isPrefixOf?_separated h, Option.isSome_map]

theorem find?_isPrefixOf_gap {gap : Char} {texts : List (List Char)} (h : ∀ text ∈ texts, gap ∉ text)
    (text rest : List Char) :
    texts.find? (·.isPrefixOf (text ++ gap :: rest)) = texts.find? (·.isPrefixOf text) := by
  induction texts with
  | nil => rfl
  | cons found texts ih =>
      rw [List.forall_mem_cons] at h
      rw [List.find?_cons, List.find?_cons, isPrefixOf_append_gap h.1, ih h.2]

theorem stopsAt_firstOf {gap : Char} {texts : List (List Char)} (h : ∀ text ∈ texts, gap ∉ text) :
    StopsAt gap (firstOf texts) where
  append text rest := by simp only [firstOf, find?_isPrefixOf_gap h]
  le text := by
    unfold firstOf
    split
    · next found starts =>
        have whole : found <+: text := by simpa using List.find?_some starts
        exact whole.length_le
    · exact Nat.zero_le _

/-- White space ends where it ends in a longer text, unless the two texts meet in it or in a continued
    line. -/
theorem blankLength_append {text rest : List Char}
    (run : (text ++ rest).takeWhile isBlank = text.takeWhile isBlank)
    (apart : ∀ behind, text ++ rest = '\\' :: '\n' :: behind → 2 ≤ text.length) :
    blankLength (text ++ rest) = blankLength text := by
  by_cases continued : ∃ behind, text = '\\' :: '\n' :: behind
  · obtain ⟨behind, rfl⟩ := continued
    rfl
  · have within : ∀ behind, text ++ rest ≠ '\\' :: '\n' :: behind := by
      intro behind same
      have long := apart behind same
      rcases text with _ | ⟨c, _ | ⟨d, before⟩⟩
      · simp at long
      · simp at long
      · simp only [List.cons_append, List.cons.injEq] at same
        exact continued ⟨before, by rw [same.1, same.2.1]⟩
    rw [blankLength.eq_2 text fun behind same => continued ⟨behind, same⟩,
      blankLength.eq_2 _ within, run]

theorem blankLength_le (text : List Char) : blankLength text ≤ text.length := by
  unfold blankLength
  split
  · simp
  · exact length_takeWhile_le isBlank text

theorem stopsAt_blank {gap : Char} (blank : isBlank gap = false) (newline : gap ≠ '\n')
    (backslash : gap ≠ '\\') : StopsAt gap blankLength where
  append text rest := by
    refine blankLength_append (takeWhile_append_gap blank text rest) ?_
    intro behind same
    cases text with
    | nil => exact absurd (List.cons.inj same).1 backslash
    | cons c text =>
        cases text with
        | nil => exact absurd (List.cons.inj (List.cons.inj same).2).1 newline
        | cons d text => simp
  le := blankLength_le

/-! ## Words -/

section Words

variable {gap : Char} (h : isGap gap = true)
include h

theorem wordRun_append_gap (text rest : List Char) : wordRun (text ++ gap :: rest) = wordRun text :=
  takeWhile_append_gap (isWord_eq_false_of_isGap h) text rest

theorem stopsAt_wholeWord (accepts : List Char → Bool) : StopsAt gap (wholeWord accepts) where
  append text rest := by simp only [wholeWord, wordRun_append_gap h]
  le text := by
    unfold wholeWord
    dsimp only
    split
    · exact length_takeWhile_le isWord text
    · exact Nat.zero_le _

theorem stopsAt_name : StopsAt gap nameLength := stopsAt_wholeWord h isName

/-- A call ends behind its parenthesis, so that only another gap stops it. -/
theorem stopsAt_call (other : gap ≠ '(') : StopsAt gap callLength where
  append text rest := by
    have named := stopsAt_name h
    simp only [callLength, named.append, List.drop_append_of_le_length (named.le text)]
    cases text.drop (nameLength text) with
    | nil =>
        simp only [List.nil_append]
        split
        · next opened => exact absurd (List.cons.inj opened).1 other
        · rfl
    | cons c behind =>
        by_cases opened : c = '('
        · subst opened
          rfl
        · simp [opened]
  le text := by
    rcases Nat.eq_zero_or_pos (callLength text) with none | positive
    · omega
    · obtain ⟨whole, -, taken⟩ := take_callLength positive
      have lengths := congrArg List.length taken
      simp only [List.length_take, List.length_append, List.length_singleton] at lengths
      have := (stopsAt_name h).le text
      omega

theorem stopsAt_condition : StopsAt gap conditionLength where
  append text rest := by
    have absent : gap ∉ "cond:".toList := not_mem_of_isGap h (by decide)
    simp only [conditionLength, afterStem?, isPrefixOf?_separated absent]
    cases List.isPrefixOf? "cond:".toList text with
    | none => rfl
    | some behind => simp only [Option.map_some, wordRun_append_gap h]
  le text := by
    unfold conditionLength
    split
    · next behind stemmed =>
        have whole := congrArg List.length (List.isPrefixOf?_eq_some_iff_append_eq.mp stemmed)
        have run := length_takeWhile_le isWord behind
        have stem : "cond:".toList.length = 5 := rfl
        simp only [List.length_append] at whole
        dsimp only
        split
        · exact Nat.zero_le _
        · simp only [wordRun]
          omega
    · exact Nat.zero_le _

end Words

/-! ## Numbers -/

section Numbers

variable {gap : Char} (h : isGap gap = true)
include h

theorem stopsAt_digits : StopsAt gap digitsLength :=
  stopsAt_takeWhile (isDecimal_eq_false_of_isGap h)

theorem stopsAt_pointed : StopsAt gap pointedLength where
  append text rest := by
    have digits := stopsAt_digits h
    have point : gap ≠ '.' := ne_of_isGap h (by decide)
    simp only [pointedLength, digits.append, List.drop_append_of_le_length (digits.le text)]
    cases text.drop (digitsLength text) with
    | nil =>
        simp only [List.nil_append]
        split
        · next pointed => exact absurd (List.cons.inj pointed).1 point
        · rfl
    | cons c behind =>
        by_cases pointed : c = '.'
        · subst pointed
          simp only [List.cons_append, digits.append]
        · simp [pointed]
  le text := by
    unfold pointedLength
    dsimp only
    split
    · next behind pointed =>
        have whole := congrArg List.length pointed
        have fraction := (stopsAt_digits h).le behind
        simp only [List.length_drop, List.length_cons] at whole
        split <;> omega
    · exact Nat.zero_le _

theorem stopsAt_sign : StopsAt gap (optionalLength fun c => c == '+' || c == '-') :=
  stopsAt_oneChar (by simp [ne_of_isGap h (c := '+') (by decide), ne_of_isGap h (c := '-') (by decide)])

theorem stopsAt_floatLetter : StopsAt gap (optionalLength isFloatLetter) :=
  stopsAt_oneChar (by
    simp [isFloatLetter, ne_of_isGap h (c := 'f') (by decide), ne_of_isGap h (c := 'F') (by decide)])

theorem stopsAt_typeLetter : StopsAt gap (optionalLength ("fFlL".toList.contains ·)) :=
  stopsAt_oneChar (contains_eq_false_of_isGap h (by decide))

theorem stopsAt_exponent : StopsAt gap exponentLength where
  append text rest := by
    have sign := stopsAt_sign h
    have digits := stopsAt_digits h
    have letter := stopsAt_typeLetter h
    cases text with
    | nil =>
        have small := ne_of_isGap h (c := 'e') (by decide)
        have large := ne_of_isGap h (c := 'E') (by decide)
        simp [exponentLength, small, large]
    | cons c text =>
        have signed := sign.le text
        have counted := digits.le (text.drop (optionalLength (fun c => c == '+' || c == '-') text))
        simp only [List.length_drop] at counted
        simp only [exponentLength, List.cons_append, sign.append,
          List.drop_append_of_le_length signed, digits.append]
        rw [List.drop_append_of_le_length (by omega), letter.append]
  le text := by
    unfold exponentLength
    split
    · next c text =>
        dsimp only
        have signed := (stopsAt_sign h).le text
        have counted := (stopsAt_digits h).le
          (text.drop (optionalLength (fun c => c == '+' || c == '-') text))
        have typed := (stopsAt_typeLetter h).le
          (text.drop (optionalLength (fun c => c == '+' || c == '-') text +
            digitsLength (text.drop (optionalLength (fun c => c == '+' || c == '-') text))))
        simp only [List.length_drop] at counted typed
        simp only [List.length_cons]
        split
        · split <;> omega
        · omega
    · exact Nat.zero_le _

theorem stopsAt_scientific : StopsAt gap scientificLength where
  append text rest := by
    have pointed := stopsAt_pointed h
    have digits := stopsAt_digits h
    have mantissa : (if pointedLength text = 0 then digitsLength text else pointedLength text) ≤
        text.length := by
      have := pointed.le text
      have := digits.le text
      split <;> omega
    simp only [scientificLength, pointed.append, digits.append,
      List.drop_append_of_le_length mantissa, (stopsAt_exponent h).append]
  le text := by
    have pointed := (stopsAt_pointed h).le text
    have digits := (stopsAt_digits h).le text
    unfold scientificLength
    dsimp only
    generalize mantissa : (if pointedLength text = 0 then digitsLength text else pointedLength text) = m
    have bound : m ≤ text.length := by
      rw [← mantissa]
      split <;> omega
    have exponent := (stopsAt_exponent h).le (text.drop m)
    simp only [List.length_drop] at exponent
    split <;> omega

theorem stopsAt_float : StopsAt gap floatLength where
  append text rest := by
    have pointed := stopsAt_pointed h
    have digits := stopsAt_digits h
    have letter := stopsAt_floatLetter h
    have counted := digits.le text
    simp only [floatLength, pointed.append, digits.append, letter.append,
      List.drop_append_of_le_length (pointed.le text), List.drop_append_of_le_length counted]
    split
    · rfl
    · split
      · rfl
      · next some =>
          have lettered := letter.le (text.drop (digitsLength text))
          simp only [List.length_drop, Bool.or_eq_true, decide_eq_true_eq, not_or] at lettered some
          rw [List.drop_append_of_le_length (by omega), letter.append]
  le text := by
    have pointed := (stopsAt_pointed h).le text
    have digits := (stopsAt_digits h).le text
    have letter := (stopsAt_floatLetter h).le
    have behindPoint := letter (text.drop (pointedLength text))
    have behindDigits := letter (text.drop (digitsLength text))
    have behindLetter := letter (text.drop (digitsLength text + 1))
    simp only [List.length_drop] at behindPoint behindDigits behindLetter
    unfold floatLength
    dsimp only
    split
    · omega
    · split
      · omega
      · next some =>
          simp only [Bool.or_eq_true, decide_eq_true_eq, not_or] at some
          omega

theorem stopsAt_suffix : StopsAt gap suffixLength :=
  stopsAt_takeWhile (contains_eq_false_of_isGap h (by decide))

theorem stopsAt_width : StopsAt gap widthLength := by
  refine stopsAt_firstOf ?_
  simp only [List.forall_mem_cons, List.not_mem_nil, false_imp_iff, implies_true, and_true]
  refine ⟨?_, ?_, ?_, ?_⟩ <;> exact not_mem_of_isGap h (by decide)

theorem suffixedLength_append_gap {digits : Nat} {text : List Char} (within : digits ≤ text.length)
    (withWidth : Bool) (rest : List Char) :
    suffixedLength digits withWidth (text ++ gap :: rest) = suffixedLength digits withWidth text := by
  have suffix := (stopsAt_suffix h).le (text.drop digits)
  simp only [List.length_drop] at suffix
  simp only [suffixedLength, List.drop_append_of_le_length within, (stopsAt_suffix h).append]
  rw [List.drop_append_of_le_length (by omega), (stopsAt_width h).append]

theorem suffixedLength_le {digits : Nat} {text : List Char} (within : digits ≤ text.length)
    (withWidth : Bool) : suffixedLength digits withWidth text ≤ text.length := by
  have suffix := (stopsAt_suffix h).le (text.drop digits)
  have width := (stopsAt_width h).le (text.drop (digits + suffixLength (text.drop digits)))
  simp only [List.length_drop] at suffix width
  simp only [suffixedLength]
  split <;> omega

theorem stopsAt_decimal : StopsAt gap decimalLength where
  append text rest := by
    have digits := stopsAt_digits h
    simp only [decimalLength, digits.append, suffixedLength_append_gap h (digits.le text)]
  le text := by
    unfold decimalLength
    dsimp only
    split
    · exact Nat.zero_le _
    · exact suffixedLength_le h ((stopsAt_digits h).le text) true

theorem stopsAt_octal : StopsAt gap octalLength where
  append text rest := by
    have zero : gap ≠ '0' := ne_of_isGap h (by decide)
    cases text with
    | nil => simp [octalLength, zero]
    | cons c text =>
        by_cases first : c = '0'
        · subst first
          have digits := length_takeWhile_le isOctalDigit text
          simp only [octalLength, List.cons_append,
            takeWhile_append_gap (isOctalDigit_eq_false_of_isGap h)]
          rw [← List.cons_append, suffixedLength_append_gap h (by rw [List.length_cons]; omega)]
        · simp [octalLength, first]
  le text := by
    unfold octalLength
    split
    · next rest =>
        dsimp only
        split
        · exact Nat.zero_le _
        · refine suffixedLength_le h ?_ true
          have digits := length_takeWhile_le isOctalDigit rest
          rw [List.length_cons]
          omega
    · exact Nat.zero_le _

theorem stopsAt_based {lower upper : Char} {digit : Char → Bool} (small : isGap lower = false)
    (large : isGap upper = false) (other : digit gap = false) (withWidth : Bool) :
    StopsAt gap (basedLength lower upper digit withWidth) where
  append text rest := by
    have zero : gap ≠ '0' := ne_of_isGap h (by decide)
    have lowerMark := ne_of_isGap h small
    have upperMark := ne_of_isGap h large
    cases text with
    | nil => simp [basedLength, zero]
    | cons c text =>
        by_cases first : c = '0'
        · subst first
          cases text with
          | nil => simp [basedLength, lowerMark, upperMark]
          | cons x text =>
              have digits := length_takeWhile_le digit text
              have within : 2 + (text.takeWhile digit).length ≤ ('0' :: x :: text).length := by
                simp only [List.length_cons]
                omega
              have same := suffixedLength_append_gap h within withWidth rest
              simp only [List.cons_append] at same
              simp only [basedLength, List.cons_append, takeWhile_append_gap other, same]
        · cases text <;> simp [basedLength, first]
  le text := by
    unfold basedLength
    split
    · next x rest =>
        dsimp only
        split
        · refine suffixedLength_le h ?_ withWidth
          have digits := length_takeWhile_le digit rest
          simp only [List.length_cons]
          omega
        · exact Nat.zero_le _
    · exact Nat.zero_le _

end Numbers

/-! ## Rule tables -/

/-- The rules before the one for calls. -/
def earlyRules (dialect : Dialect) : List Rule := leadingRules ++ dialectRules dialect ++ keywordRules

theorem Dialect.rules_eq (dialect : Dialect) :
    dialect.rules = earlyRules dialect ++ callRule dialect :: commonRules := rfl

section Tables

variable {gap : Char} (h : isGap gap = true)
include h

theorem leadingRules_stop : ∀ rule ∈ leadingRules, StopsAt gap rule.length := by
  have fixed (texts : List (List Char)) (plain : ∀ text ∈ texts, text.any isGap = false) :
      StopsAt gap (firstOf texts) :=
    stopsAt_firstOf fun text member => not_mem_of_isGap h (plain text member)
  simp only [leadingRules, List.forall_mem_cons, List.not_mem_nil, false_imp_iff, implies_true,
    and_true]
  exact ⟨fixed placeholders (by decide), fixed _ (by decide), fixed compoundOperators (by decide)⟩

theorem dialectRules_stop (dialect : Dialect) :
    ∀ rule ∈ dialectRules dialect, StopsAt gap rule.length := by
  cases dialect <;>
    simp only [dialectRules, List.forall_mem_cons, List.not_mem_nil, false_imp_iff, implies_true,
      and_true]
  case decompiler =>
    exact ⟨stopsAt_wholeWord h _, stopsAt_wholeWord h _, stopsAt_wholeWord h _⟩
  case analysisTool =>
    exact ⟨stopsAt_wholeWord h _, stopsAt_condition h, stopsAt_wholeWord h _,
      stopsAt_wholeWord h _, stopsAt_wholeWord h _, stopsAt_wholeWord h _, stopsAt_wholeWord h _⟩

theorem keywordRules_stop : ∀ rule ∈ keywordRules, StopsAt gap rule.length := by
  simp only [keywordRules, List.forall_mem_cons, List.not_mem_nil, false_imp_iff, implies_true,
    and_true]
  exact ⟨stopsAt_wholeWord h _, stopsAt_wholeWord h _⟩

theorem earlyRules_stop (dialect : Dialect) :
    ∀ rule ∈ earlyRules dialect, StopsAt gap rule.length := by
  intro rule member
  simp only [earlyRules, List.mem_append] at member
  rcases member with (leading | own) | keyword
  · exact leadingRules_stop h rule leading
  · exact dialectRules_stop h dialect rule own
  · exact keywordRules_stop h rule keyword

theorem numberRules_stop : ∀ rule ∈ commonRules, rule.category = .number → StopsAt gap rule.length := by
  have binary : (gap == '0' || gap == '1') = false := by
    simp [ne_of_isGap h (c := '0') (by decide), ne_of_isGap h (c := '1') (by decide)]
  simp only [commonRules, List.forall_mem_cons, List.not_mem_nil, false_imp_iff, implies_true,
    and_true, reduceCtorEq, true_imp_iff, true_and]
  exact ⟨stopsAt_scientific h, stopsAt_float h,
    stopsAt_based h (by decide) (by decide) (isHexDigit_eq_false_of_isGap h) true,
    stopsAt_based h (by decide) (by decide) binary false, stopsAt_octal h, stopsAt_decimal h⟩

end Tables

end SymbolCorpus.PseudoCode
