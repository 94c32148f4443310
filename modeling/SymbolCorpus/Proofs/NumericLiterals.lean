import SymbolCorpus.Proofs.FixedTokens

/-! # Numeric literals

A numeric literal is one lexeme. The rules for numbers overlap, and each is tried on what the ones
before it leave: a text of digits is an exponent's, then a fraction's, then an integer's in one base
after another. One kind of literal falls between them: the rule for fractions knows only the letter of
single precision, so that the letter l behind a fraction without an exponent becomes a name.
-/

namespace SymbolCorpus.PseudoCode

open Text

/-! ## Literals as they are written -/

def suffixLetters : List Char := ['u', 'U', 'l', 'L']

/-- The suffixes that give the width of an integer. -/
def widthSuffixes : List (List Char) :=
  ["i8", "i16", "i32", "i64", "ui8", "ui16", "ui32", "ui64"].map String.toList

/-- What may stand behind the digits of an integer. -/
inductive IsSuffix (withWidth : Bool) : List Char → Prop where
  | letters {suffix : List Char} : (∀ c ∈ suffix, c ∈ suffixLetters) → IsSuffix withWidth suffix
  | width {suffix : List Char} : withWidth = true → suffix ∈ widthSuffixes → IsSuffix withWidth suffix

/-- The letters for the type of a floating number, or none. -/
def typeLetters : List (List Char) := [[], ['f'], ['F'], ['l'], ['L']]

/-- An exponent: its letter, a sign or none, and digits. -/
structure Exponent where
  mark : Char
  sign : List Char
  digits : List Char
  marked : mark = 'e' ∨ mark = 'E'
  signed : sign ∈ [[], ['+'], ['-']]
  nonempty : digits ≠ []
  decimal : ∀ c ∈ digits, c.isDigit = true

def Exponent.text (exponent : Exponent) : List Char :=
  exponent.mark :: (exponent.sign ++ exponent.digits)

/-- A numeric literal of C, with the binary integers and the width suffixes that compilers add. -/
inductive Numeral where
  | decimal (first : Char) (digits suffix : List Char) (nonzero : first ≠ '0')
      (inside : ∀ c ∈ first :: digits, c.isDigit = true) (suffixed : IsSuffix true suffix)
  /-- Zero is an octal number without further digits. -/
  | octal (digits suffix : List Char) (inside : ∀ c ∈ digits, isOctalDigit c = true)
      (suffixed : IsSuffix true suffix)
  | hexadecimal (mark : Char) (digits suffix : List Char) (marked : mark = 'x' ∨ mark = 'X')
      (nonempty : digits ≠ []) (inside : ∀ c ∈ digits, isHexDigit c = true)
      (suffixed : IsSuffix true suffix)
  | binary (mark : Char) (digits suffix : List Char) (marked : mark = 'b' ∨ mark = 'B')
      (nonempty : digits ≠ []) (inside : ∀ c ∈ digits, c = '0' ∨ c = '1')
      (suffixed : IsSuffix false suffix)
  /-- Digits with a point before, behind or among them, perhaps with an exponent. -/
  | pointed (whole fraction : List Char) (exponent : Option Exponent) (letter : List Char)
      (nonempty : whole ≠ [] ∨ fraction ≠ []) (wholeInside : ∀ c ∈ whole, c.isDigit = true)
      (fractionInside : ∀ c ∈ fraction, c.isDigit = true) (lettered : letter ∈ typeLetters)
  /-- Digits with an exponent and without a point. -/
  | scaled (whole : List Char) (exponent : Exponent) (letter : List Char) (nonempty : whole ≠ [])
      (inside : ∀ c ∈ whole, c.isDigit = true) (lettered : letter ∈ typeLetters)

namespace Numeral

/-- The literal as it is written. -/
def text : Numeral → List Char
  | decimal first digits suffix .. => first :: digits ++ suffix
  | octal digits suffix .. => '0' :: digits ++ suffix
  | hexadecimal mark digits suffix .. => '0' :: mark :: digits ++ suffix
  | binary mark digits suffix .. => '0' :: mark :: digits ++ suffix
  | pointed whole fraction exponent letter .. =>
      whole ++ '.' :: fraction ++ (exponent.elim [] Exponent.text ++ letter)
  | scaled whole exponent letter .. => whole ++ (exponent.text ++ letter)

/-- The letter l or L stands behind a fraction without an exponent. -/
def IsLongFraction : Numeral → Prop
  | pointed _ _ none letter .. => letter = ['l'] ∨ letter = ['L']
  | _ => False

end Numeral

/-! ## Runs of digits -/

theorem isDigit_decimal : ∀ code < 0x80, (Char.ofNat code).isDigit = true →
    isDecimal (Char.ofNat code) = true := by
  decide +kernel

theorem isDecimal_of_isDigit {c : Char} (h : c.isDigit = true) : isDecimal c = true := by
  have hex : isHexDigit c = true := by simp [isHexDigit, h]
  have digit := isDigit_decimal c.toNat (toNat_lt_of_isHexDigit hex)
  rw [Char.ofNat_toNat] at digit
  exact digit h

section Digits

variable {digits fraction rest : List Char} (inside : ∀ c ∈ digits, c.isDigit = true)
include inside

theorem digitsLength_append (ends : ∀ next ∈ rest.head?, isDecimal next = false) :
    digitsLength (digits ++ rest) = digits.length :=
  congrArg List.length
    (takeWhile_append_of_ends (fun c member => isDecimal_of_isDigit (inside c member)) ends)

theorem pointedLength_append (nonempty : digits ≠ [] ∨ fraction ≠ [])
    (fractionInside : ∀ c ∈ fraction, c.isDigit = true)
    (ends : ∀ next ∈ rest.head?, isDecimal next = false) :
    pointedLength (digits ++ '.' :: fraction ++ rest) = (digits ++ '.' :: fraction).length := by
  have whole : digitsLength (digits ++ '.' :: (fraction ++ rest)) = digits.length :=
    digitsLength_append inside fun next member => by
      obtain rfl : '.' = next := by simpa using member
      decide
  have behind := digitsLength_append fractionInside ends
  have some : (decide (digits.length = 0) && decide (fraction.length = 0)) = false := by
    simp only [Bool.and_eq_false_iff, decide_eq_false_iff_not, List.length_eq_zero_iff]
    exact nonempty
  simp only [List.append_assoc, List.cons_append, pointedLength, whole, List.drop_left, behind, some,
    Bool.false_eq_true, if_false, List.length_append, List.length_cons]
  omega

theorem pointedLength_unpointed (ends : ∀ next ∈ rest.head?, isDecimal next = false)
    (unpointed : '.' ∉ rest.head?) : pointedLength (digits ++ rest) = 0 := by
  simp only [pointedLength, digitsLength_append inside ends, List.drop_left]
  split
  · next point => simp at unpointed
  · rfl

end Digits

/-! ## Exponents -/

theorem isDecimal_head_typeLetters : ∀ letter ∈ typeLetters, ∀ next ∈ letter.head?,
    isDecimal next = false := by
  have checked : ∀ letter ∈ typeLetters, letter.head?.all (!isDecimal ·) = true := by decide
  intro letter lettered next member
  simpa using (Option.all_eq_true _ _).mp (checked letter lettered) next member

theorem exponentLength_text (exponent : Exponent) {letter : List Char}
    (lettered : letter ∈ typeLetters) :
    exponentLength (exponent.text ++ letter) = exponent.text.length + letter.length := by
  obtain ⟨mark, sign, digits, marked, signed, nonempty, inside⟩ := exponent
  have isMark : (decide (mark = 'e') || decide (mark = 'E')) = true := by simpa using marked
  have signLength : optionalLength (fun c => c == '+' || c == '-') (sign ++ (digits ++ letter)) =
      sign.length := by
    obtain ⟨first, others, rfl⟩ := List.exists_cons_of_ne_nil nonempty
    have unsigned : first ≠ '+' ∧ first ≠ '-' := by
      have digit := inside first List.mem_cons_self
      constructor <;> rintro rfl <;> cases digit
    simp only [List.mem_cons, List.not_mem_nil, or_false] at signed
    rcases signed with rfl | rfl | rfl
    · simp [optionalLength, oneChar, unsigned]
    · rfl
    · rfl
  have counted : digitsLength (digits ++ letter) = digits.length :=
    digitsLength_append inside (isDecimal_head_typeLetters letter lettered)
  have letterLength : ∀ letter ∈ typeLetters,
      optionalLength ("fFlL".toList.contains ·) letter = letter.length := by
    decide
  have some : digits.length ≠ 0 := by simpa using nonempty
  have behind : (sign ++ (digits ++ letter)).drop (sign.length + digits.length) = letter := by
    rw [← List.append_assoc, ← List.length_append, List.drop_left]
  simp only [Exponent.text, List.cons_append, List.append_assoc, exponentLength, isMark, if_true,
    signLength, List.drop_left, counted, some, if_false, behind, letterLength letter lettered,
    List.length_cons, List.length_append]
  omega

theorem exponentLength_of_head {rest : List Char}
    (other : ∀ next ∈ rest.head?, next ≠ 'e' ∧ next ≠ 'E') : exponentLength rest = 0 := by
  cases rest with
  | nil => rfl
  | cons next rest => simp [exponentLength, other next rfl]

theorem exponentLength_typeLetters : ∀ letter ∈ typeLetters, exponentLength letter = 0 := by
  decide

theorem Exponent.head_text_append (exponent : Exponent) (letter : List Char) :
    ∀ next ∈ (exponent.text ++ letter).head?, next = 'e' ∨ next = 'E' := by
  intro next member
  obtain rfl : exponent.mark = next := by simpa [Exponent.text] using member
  exact exponent.marked

theorem Exponent.ends_digits (exponent : Exponent) (letter : List Char) :
    ∀ next ∈ (exponent.text ++ letter).head?, isDecimal next = false := by
  intro next member
  rcases exponent.head_text_append letter next member with rfl | rfl <;> decide

/-! ## Floating numbers -/

section Floating

variable {whole fraction letter : List Char} (wholeInside : ∀ c ∈ whole, c.isDigit = true)
  (lettered : letter ∈ typeLetters)
include wholeInside lettered

theorem scientificLength_scaled (exponent : Exponent) (nonempty : whole ≠ []) :
    scientificLength (whole ++ (exponent.text ++ letter)) =
      (whole ++ (exponent.text ++ letter)).length := by
  have ends := exponent.ends_digits letter
  have unpointed : '.' ∉ (exponent.text ++ letter).head? := by
    intro member
    rcases exponent.head_text_append letter '.' member with same | same <;> cases same
  have some : whole.length ≠ 0 := by simpa using nonempty
  have scaled : exponent.text.length ≠ 0 := by simp [Exponent.text]
  simp only [scientificLength, pointedLength_unpointed wholeInside ends unpointed,
    digitsLength_append wholeInside ends, if_true, List.drop_left, exponentLength_text exponent lettered]
  rw [if_neg (by simp [some, scaled])]
  simp only [List.length_append]

variable (nonempty : whole ≠ [] ∨ fraction ≠ [])
  (fractionInside : ∀ c ∈ fraction, c.isDigit = true)
include nonempty fractionInside

theorem scientificLength_pointed (exponent : Exponent) :
    scientificLength (whole ++ '.' :: fraction ++ (exponent.text ++ letter)) =
      (whole ++ '.' :: fraction ++ (exponent.text ++ letter)).length := by
  have ends := exponent.ends_digits letter
  have some : (whole ++ '.' :: fraction).length ≠ 0 := by simp
  have scaled : exponent.text.length ≠ 0 := by simp [Exponent.text]
  simp only [scientificLength, pointedLength_append wholeInside nonempty fractionInside ends,
    if_neg some, List.drop_left, exponentLength_text exponent lettered]
  rw [if_neg (by simp [scaled])]
  simp only [List.length_append]

theorem scientificLength_unscaled :
    scientificLength (whole ++ '.' :: fraction ++ letter) = 0 := by
  have ends := isDecimal_head_typeLetters letter lettered
  have some : (whole ++ '.' :: fraction).length ≠ 0 := by simp
  simp only [scientificLength, pointedLength_append wholeInside nonempty fractionInside ends,
    if_neg some, List.drop_left, exponentLength_typeLetters letter lettered]
  simp

theorem floatLength_pointed :
    floatLength (whole ++ '.' :: fraction ++ letter) =
      (whole ++ '.' :: fraction).length + optionalLength isFloatLetter letter := by
  have ends := isDecimal_head_typeLetters letter lettered
  have some : (whole ++ '.' :: fraction).length ≠ 0 := by simp
  simp only [floatLength, pointedLength_append wholeInside nonempty fractionInside ends, some, ne_eq,
    not_false_eq_true, if_true, List.drop_left]

end Floating

/-! ## Integers -/

/-- The characters that a suffix can begin with. -/
def suffixStarts : List Char := suffixLetters ++ ['i']

section Suffix

variable {withWidth : Bool} {suffix : List Char} (suffixed : IsSuffix withWidth suffix)
include suffixed

theorem IsSuffix.head_mem : ∀ next ∈ suffix.head?, next ∈ suffixStarts := by
  cases suffixed with
  | letters inside =>
      exact fun next member => List.mem_append_left _ (inside next (List.mem_of_head? member))
  | width _ member =>
      have starts : ∀ suffix ∈ widthSuffixes, suffix.head?.all (suffixStarts.contains ·) = true := by
        decide
      intro next head
      simpa using (Option.all_eq_true _ _).mp (starts suffix member) next head

theorem IsSuffix.ends {p : Char → Bool} (other : suffixStarts.all (!p ·) = true) :
    ∀ next ∈ suffix.head?, p next = false := by
  intro next member
  simpa using List.all_eq_true.mp other next (suffixed.head_mem next member)

theorem suffixedLength_append (digits : List Char) :
    suffixedLength digits.length withWidth (digits ++ suffix) = (digits ++ suffix).length := by
  simp only [suffixedLength, List.drop_left, List.length_append]
  cases suffixed with
  | letters inside =>
      have letters : suffixLetters.all ("LlUu".toList.contains ·) = true := by decide
      have run : suffixLength suffix = suffix.length :=
        congrArg List.length (List.takeWhile_eq_self_iff.mpr fun c member =>
          List.all_eq_true.mp letters c (inside c member))
      have nothing : widthLength ((digits ++ suffix).drop (digits.length + suffix.length)) = 0 := by
        rw [← List.length_append, List.drop_length]
        rfl
      rw [run, nothing]
      cases withWidth <;> rfl
  | width wide member =>
      have checked : ∀ suffix ∈ widthSuffixes,
          suffixLength suffix + widthLength (suffix.drop (suffixLength suffix)) = suffix.length := by
        decide
      rw [if_pos wide, List.drop_length_add_append, Nat.add_assoc, checked suffix member]

end Suffix

/-- The characters with which a floating number goes on behind its first digits. -/
def goesOnFloating (c : Char) : Bool := isDecimal c || ['.', 'e', 'E', 'f', 'F'].contains c

theorem notFloating {digits rest : List Char} (inside : ∀ c ∈ digits, c.isDigit = true)
    (ends : ∀ next ∈ rest.head?, goesOnFloating next = false) :
    scientificLength (digits ++ rest) = 0 ∧ floatLength (digits ++ rest) = 0 := by
  have stops : ∀ next ∈ rest.head?, isDecimal next = false := fun next member =>
    (Bool.or_eq_false_iff.mp (ends next member)).1
  have other {c : Char} (goesOn : goesOnFloating c = true) : c ∉ rest.head? := fun member => by
    rw [ends c member] at goesOn
    cases goesOn
  have unpointed := pointedLength_unpointed inside stops (other rfl)
  have counted := digitsLength_append inside stops
  have unscaled : exponentLength rest = 0 := exponentLength_of_head fun next member =>
    ⟨fun same => other rfl (same ▸ member), fun same => other rfl (same ▸ member)⟩
  have letterless : optionalLength isFloatLetter rest = 0 := by
    cases rest with
    | nil => rfl
    | cons next rest =>
        have plain : next ≠ 'f' ∧ next ≠ 'F' := by
          constructor <;> rintro rfl <;> exact other rfl rfl
        simp [optionalLength, oneChar, isFloatLetter, plain]
  constructor
  · simp [scientificLength, unpointed, counted, unscaled]
  · simp [floatLength, unpointed, counted, letterless]

theorem basedLength_append {lower upper mark : Char} {digit : Char → Bool} {withWidth : Bool}
    {digits suffix : List Char} (marked : mark = lower ∨ mark = upper) (nonempty : digits ≠ [])
    (inside : ∀ c ∈ digits, digit c = true) (suffixed : IsSuffix withWidth suffix)
    (other : suffixStarts.all (!digit ·) = true) :
    basedLength lower upper digit withWidth ('0' :: mark :: digits ++ suffix) =
      ('0' :: mark :: digits ++ suffix).length := by
  have run : (digits ++ suffix).takeWhile digit = digits :=
    takeWhile_append_of_ends inside (suffixed.ends other)
  have some : digits.length ≠ 0 := by simpa using nonempty
  have whole := suffixedLength_append suffixed ('0' :: mark :: digits)
  simp only [List.cons_append, List.length_cons] at whole
  have condition : ((decide (mark = lower) || decide (mark = upper)) && decide (digits.length ≠ 0)) =
      true := by
    simpa [some] using marked
  simp only [basedLength, List.cons_append, run, condition, if_true]
  rw [Nat.add_comm 2]
  exact whole

section OtherBase

variable {lower upper : Char} {digit : Char → Bool} {withWidth : Bool}

theorem basedLength_unmarked {rest : List Char}
    (other : ∀ next ∈ rest.head?, next ≠ lower ∧ next ≠ upper) :
    basedLength lower upper digit withWidth ('0' :: rest) = 0 := by
  cases rest with
  | nil => rfl
  | cons next rest => simp [basedLength, other next rfl]

theorem basedLength_nonzero {first : Char} (nonzero : first ≠ '0') (rest : List Char) :
    basedLength lower upper digit withWidth (first :: rest) = 0 := by
  cases rest <;> simp [basedLength, nonzero]

end OtherBase

theorem isDigit_of_isOctalDigit {c : Char} (h : isOctalDigit c = true) : c.isDigit = true := by
  simp only [isOctalDigit, Bool.and_eq_true, decide_eq_true_eq] at h
  simp only [Char.isDigit, Bool.and_eq_true, decide_eq_true_eq]
  exact ⟨h.1, Char.le_trans h.2 (by decide)⟩

theorem octalLength_append {digits suffix : List Char}
    (inside : ∀ c ∈ digits, isOctalDigit c = true) (suffixed : IsSuffix true suffix) :
    octalLength ('0' :: digits ++ suffix) =
      if digits = [] then 0 else ('0' :: digits ++ suffix).length := by
  have run : (digits ++ suffix).takeWhile isOctalDigit = digits :=
    takeWhile_append_of_ends inside (suffixed.ends (by decide))
  have whole := suffixedLength_append suffixed ('0' :: digits)
  simp only [List.cons_append, List.length_cons] at whole
  simp only [octalLength, List.cons_append, run, List.length_eq_zero_iff, Nat.add_comm 1, whole,
    List.length_cons]

theorem octalLength_of_head {first : Char} (nonzero : first ≠ '0') (rest : List Char) :
    octalLength (first :: rest) = 0 := by
  simp [octalLength, nonzero]

theorem decimalLength_append {digits suffix : List Char} (nonempty : digits ≠ [])
    (inside : ∀ c ∈ digits, c.isDigit = true) (suffixed : IsSuffix true suffix) :
    decimalLength (digits ++ suffix) = (digits ++ suffix).length := by
  have counted := digitsLength_append inside (suffixed.ends (by decide))
  have some : digits.length ≠ 0 := by simpa using nonempty
  simp only [decimalLength, counted, if_neg some]
  exact suffixedLength_append suffixed digits

/-- The letters behind the zero of a hexadecimal or binary number. -/
def baseMarks : List Char := ['x', 'X', 'b', 'B']

section

variable {withWidth : Bool} {digits suffix : List Char} (suffixed : IsSuffix withWidth suffix)
include suffixed

theorem notFloating_suffixed (inside : ∀ c ∈ digits, c.isDigit = true) :
    scientificLength (digits ++ suffix) = 0 ∧ floatLength (digits ++ suffix) = 0 :=
  notFloating inside (suffixed.ends (by decide))

theorem head_octal_ne {mark : Char} (marked : mark ∈ baseMarks)
    (inside : ∀ c ∈ digits, isOctalDigit c = true) : ∀ next ∈ (digits ++ suffix).head?, next ≠ mark := by
  rintro next member rfl
  cases digits with
  | nil =>
      have other := suffixed.ends (p := (baseMarks.contains ·)) (by decide) next member
      rw [List.contains_iff_mem.mpr marked] at other
      cases other
  | cons first digits =>
      obtain rfl : first = next := by simpa using member
      have letters : baseMarks.all (!isOctalDigit ·) = true := by decide
      have letter := List.all_eq_true.mp letters first marked
      rw [inside first List.mem_cons_self] at letter
      cases letter

end

theorem notFloating_marked {mark : Char} (marked : mark ∈ baseMarks)
    (digits suffix : List Char) : scientificLength ('0' :: mark :: digits ++ suffix) = 0 ∧
      floatLength ('0' :: mark :: digits ++ suffix) = 0 := by
  have others : baseMarks.all (!goesOnFloating ·) = true := by decide
  refine @notFloating ['0'] (mark :: digits ++ suffix) (List.forall_mem_singleton.mpr rfl)
    fun next member => ?_
  obtain rfl : mark = next := by simpa using member
  simpa using List.all_eq_true.mp others mark marked

/-! ## Rule tables -/

/-- The rules for numbers, in the order in which they are tried. -/
def numberRules : List Rule :=
  [⟨.number, scientificLength⟩, ⟨.number, floatLength⟩,
    ⟨.number, basedLength 'x' 'X' isHexDigit true⟩,
    ⟨.number, basedLength 'b' 'B' (fun c => c == '0' || c == '1') false⟩, ⟨.number, octalLength⟩,
    ⟨.number, decimalLength⟩]

section Integers

variable {digits suffix : List Char} {mark : Char}

theorem firstMatch_decimal {first : Char} (nonzero : first ≠ '0')
    (inside : ∀ c ∈ first :: digits, c.isDigit = true) (suffixed : IsSuffix true suffix) :
    firstMatch numberRules (first :: digits ++ suffix) =
      some (.number, (first :: digits ++ suffix).length) := by
  obtain ⟨scientific, float⟩ := notFloating_suffixed suffixed inside
  have based {lower upper : Char} {digit : Char → Bool} {withWidth : Bool} :
      basedLength lower upper digit withWidth (first :: digits ++ suffix) = 0 :=
    basedLength_nonzero nonzero _
  have octal : octalLength (first :: digits ++ suffix) = 0 := octalLength_of_head nonzero _
  rw [numberRules, firstMatch_cons_idle scientific, firstMatch_cons_idle float,
    firstMatch_cons_idle based, firstMatch_cons_idle based, firstMatch_cons_idle octal]
  exact firstMatch_cons_of_eq (decimalLength_append (List.cons_ne_nil _ _) inside suffixed)
    (Nat.succ_pos _)

theorem firstMatch_octal (inside : ∀ c ∈ digits, isOctalDigit c = true)
    (suffixed : IsSuffix true suffix) :
    firstMatch numberRules ('0' :: digits ++ suffix) =
      some (.number, ('0' :: digits ++ suffix).length) := by
  have decimals : ∀ c ∈ '0' :: digits, c.isDigit = true :=
    List.forall_mem_cons.mpr ⟨rfl, fun c member => isDigit_of_isOctalDigit (inside c member)⟩
  obtain ⟨scientific, float⟩ := notFloating_suffixed suffixed decimals
  have based {lower upper : Char} {digit : Char → Bool} {withWidth : Bool} (low : lower ∈ baseMarks)
      (up : upper ∈ baseMarks) : basedLength lower upper digit withWidth ('0' :: digits ++ suffix) = 0 :=
    basedLength_unmarked fun next member =>
      ⟨head_octal_ne suffixed low inside next member, head_octal_ne suffixed up inside next member⟩
  have octal := octalLength_append inside suffixed
  rw [numberRules, firstMatch_cons_idle scientific, firstMatch_cons_idle float,
    firstMatch_cons_idle (based (by decide) (by decide)),
    firstMatch_cons_idle (based (by decide) (by decide))]
  by_cases zero : digits = []
  · rw [if_pos zero] at octal
    rw [firstMatch_cons_idle octal]
    exact firstMatch_cons_of_eq (decimalLength_append (List.cons_ne_nil _ _) decimals suffixed)
      (Nat.succ_pos _)
  · rw [if_neg zero] at octal
    exact firstMatch_cons_of_eq octal (Nat.succ_pos _)

theorem firstMatch_hexadecimal (marked : mark = 'x' ∨ mark = 'X') (nonempty : digits ≠ [])
    (inside : ∀ c ∈ digits, isHexDigit c = true) (suffixed : IsSuffix true suffix) :
    firstMatch numberRules ('0' :: mark :: digits ++ suffix) =
      some (.number, ('0' :: mark :: digits ++ suffix).length) := by
  have listed : mark ∈ baseMarks := by rcases marked with rfl | rfl <;> decide
  obtain ⟨scientific, float⟩ := notFloating_marked listed digits suffix
  rw [numberRules, firstMatch_cons_idle scientific, firstMatch_cons_idle float]
  exact firstMatch_cons_of_eq (basedLength_append marked nonempty inside suffixed (by decide))
    (Nat.succ_pos _)

theorem firstMatch_binary (marked : mark = 'b' ∨ mark = 'B') (nonempty : digits ≠ [])
    (inside : ∀ c ∈ digits, c = '0' ∨ c = '1') (suffixed : IsSuffix false suffix) :
    firstMatch numberRules ('0' :: mark :: digits ++ suffix) =
      some (.number, ('0' :: mark :: digits ++ suffix).length) := by
  have listed : mark ∈ baseMarks := by rcases marked with rfl | rfl <;> decide
  obtain ⟨scientific, float⟩ := notFloating_marked listed digits suffix
  have hexadecimal : basedLength 'x' 'X' isHexDigit true ('0' :: mark :: digits ++ suffix) = 0 :=
    basedLength_unmarked fun next member => by
      obtain rfl : mark = next := by simpa using member
      rcases marked with rfl | rfl <;> decide
  have bits : ∀ c ∈ digits, (c == '0' || c == '1') = true := by simpa using inside
  rw [numberRules, firstMatch_cons_idle scientific, firstMatch_cons_idle float,
    firstMatch_cons_idle hexadecimal]
  exact firstMatch_cons_of_eq (basedLength_append marked nonempty bits suffixed (by decide))
    (Nat.succ_pos _)

end Integers

theorem firstMatch_fraction {whole fraction letter : List Char}
    (wholeInside : ∀ c ∈ whole, c.isDigit = true) (lettered : letter ∈ typeLetters)
    (nonempty : whole ≠ [] ∨ fraction ≠ []) (fractionInside : ∀ c ∈ fraction, c.isDigit = true) :
    firstMatch numberRules (whole ++ '.' :: fraction ++ letter) =
      some (.number, (whole ++ '.' :: fraction).length + optionalLength isFloatLetter letter) := by
  have scientific := scientificLength_unscaled wholeInside lettered nonempty fractionInside
  have float := floatLength_pointed wholeInside lettered nonempty fractionInside
  rw [numberRules, firstMatch_cons_idle scientific]
  exact firstMatch_cons_of_eq float (Nat.add_pos_left (List.length_pos_iff.mpr (by simp)) _)

/-- A text that a number can begin: a digit stands at its start, or a point with a digit behind it. -/
inductive StartsNumber : List Char → Prop where
  | digit {c : Char} {rest : List Char} : c.isDigit = true → StartsNumber (c :: rest)
  | point {c : Char} {rest : List Char} : c.isDigit = true → StartsNumber ('.' :: c :: rest)

theorem StartsNumber.ne_nil {text : List Char} (h : StartsNumber text) : text ≠ [] := by
  cases h <;> exact List.cons_ne_nil _ _

theorem StartsNumber.unnamed {text : List Char} (h : StartsNumber text) : nameLength text = 0 := by
  refine wholeWord_of_rejected rfl ?_
  cases h with
  | @digit c rest digit =>
      have decimal := isDecimal_of_isDigit digit
      have word : isWord c = true := by simp [isWord, decimal]
      simp [wordRun, word, isName, decimal]
  | point _ => rfl

theorem StartsNumber.leading {text : List Char} (h : StartsNumber text) :
    firstMatch leadingRules text = none := by
  cases h with
  | @digit c rest digit =>
      exact firstMatch_leadingRules_word (by simp [isWord, isDecimal_of_isDigit digit]) rest
  | @point c rest digit =>
      have other : c ≠ '.' := by
        rintro rfl
        cases digit
      have missed : firstOf compoundOperators ('.' :: c :: rest) = 0 := by
        simp [firstOf, compoundOperators, List.isPrefixOf, Ne.symm other]
      refine firstMatch_of_idle ?_
      simp only [leadingRules, List.forall_mem_cons, List.not_mem_nil, false_imp_iff, implies_true,
        and_true]
      exact ⟨rfl, rfl, missed⟩

theorem firstMatch_openers {c : Char} (visible : isBlank c = false)
    (plain : c ∉ ['\\', '/', '#', '"', '\'', 'L', 'u', 'U']) (rest : List Char) :
    firstMatch (commonRules.take 7) (c :: rest) = none := by
  simp only [List.mem_cons, List.not_mem_nil, or_false, not_or] at plain
  obtain ⟨backslash, slash, sign, double, single, unmarked⟩ := plain
  have opened {quote : Char} (other : c ≠ quote) : openedBy quote (c :: rest) = none :=
    openedBy_plain other (by simpa using unmarked) rest
  refine firstMatch_of_idle ?_
  simp only [commonRules, List.take_succ_cons, List.take_zero, List.forall_mem_cons, List.not_mem_nil,
    false_imp_iff, implies_true, and_true]
  refine ⟨?blank, ?line, ?block, ?directive, ?closed, ?cutOff, ?character⟩
  case blank => simp [blankLength, backslash, visible]
  case line => simp [lineCommentLength, slash]
  case block => simp [blockCommentLength, slash]
  case directive => simp [directiveLength, sign]
  case closed => rw [closedLength, opened double]
  case cutOff => rw [openStringLength, opened double]
  case character => rw [closedLength, opened single]

theorem StartsNumber.openers {text : List Char} (h : StartsNumber text) :
    firstMatch (commonRules.take 7) text = none := by
  cases h with
  | @digit c rest digit =>
      have visible : isBlank c = false := by
        by_contra blank
        have word : isWord c = true := by simp [isWord, isDecimal_of_isDigit digit]
        rw [isWord_eq_false_of_isBlank (Bool.not_eq_false _ ▸ blank)] at word
        cases word
      have digitless : ['\\', '/', '#', '"', '\'', 'L', 'u', 'U'].all (!·.isDigit) = true := by decide
      refine firstMatch_openers visible (fun member => ?_) rest
      simpa [digit] using List.all_eq_true.mp digitless c member
  | point _ => exact firstMatch_openers (by decide) (by decide) _

theorem StartsNumber.firstMatch_rules {text : List Char} (h : StartsNumber text) {found : Category × Nat}
    (number : firstMatch numberRules text = some found) (dialect : Dialect) :
    firstMatch dialect.rules text = some found := by
  have parts : dialect.rules = earlyRules dialect ++ ([callRule dialect] ++
      (commonRules.take 7 ++ (numberRules ++ commonRules.drop 13))) := rfl
  have call : firstMatch [callRule dialect] text = none :=
    firstMatch_of_idle (by simpa using callRule_idle h.unnamed dialect)
  rw [parts, firstMatch_append, firstMatch_append, firstMatch_append, firstMatch_append,
    firstMatch_earlyRules_unnamed h.unnamed h.leading, call, h.openers, number]
  rfl

/-! ## Numerals -/

namespace Numeral

theorem startsNumber (numeral : Numeral) : StartsNumber numeral.text := by
  cases numeral with
  | decimal first digits suffix _ inside _ => exact .digit (inside first List.mem_cons_self)
  | octal digits suffix _ _ => exact .digit rfl
  | hexadecimal mark digits suffix _ _ _ _ => exact .digit rfl
  | binary mark digits suffix _ _ _ _ => exact .digit rfl
  | pointed whole fraction exponent letter nonempty wholeInside fractionInside _ =>
      cases whole with
      | cons first whole => exact .digit (wholeInside first List.mem_cons_self)
      | nil =>
          obtain ⟨first, others, rfl⟩ :=
            List.exists_cons_of_ne_nil (nonempty.resolve_left fun some => some rfl)
          exact .point (fractionInside first List.mem_cons_self)
  | scaled whole exponent letter nonempty inside _ =>
      obtain ⟨first, others, rfl⟩ := List.exists_cons_of_ne_nil nonempty
      exact .digit (inside first List.mem_cons_self)

theorem length_text_pos (numeral : Numeral) : 0 < numeral.text.length :=
  List.length_pos_iff.mpr numeral.startsNumber.ne_nil

/-- The rules for numbers take the whole of a literal but for the letter l behind a fraction. -/
theorem firstMatch_numberRules (numeral : Numeral) (whole : ¬numeral.IsLongFraction) :
    firstMatch numberRules numeral.text = some (.number, numeral.text.length) := by
  have positive := numeral.length_text_pos
  cases numeral with
  | decimal first digits suffix nonzero inside suffixed =>
      exact firstMatch_decimal nonzero inside suffixed
  | octal digits suffix inside suffixed => exact firstMatch_octal inside suffixed
  | hexadecimal mark digits suffix marked nonempty inside suffixed =>
      exact firstMatch_hexadecimal marked nonempty inside suffixed
  | binary mark digits suffix marked nonempty inside suffixed =>
      exact firstMatch_binary marked nonempty inside suffixed
  | pointed digits fraction exponent letter nonempty inside fractionInside lettered =>
      cases exponent with
      | some exponent =>
          exact firstMatch_cons_of_eq
            (scientificLength_pointed inside lettered nonempty fractionInside exponent) positive
      | none =>
          have single : ∀ letter ∈ typeLetters, ¬(letter = ['l'] ∨ letter = ['L']) →
              optionalLength isFloatLetter letter = letter.length := by
            decide
          have taken := firstMatch_fraction inside lettered nonempty fractionInside
          rwa [single letter lettered whole, ← List.length_append] at taken
  | scaled digits exponent letter nonempty inside lettered =>
      exact firstMatch_cons_of_eq (scientificLength_scaled inside lettered exponent nonempty) positive

/-- A fraction with the letter l behind it is taken without the letter. -/
theorem firstMatch_longFraction {numeral : Numeral} (long : numeral.IsLongFraction) :
    ∃ front letter, numeral.text = front ++ [letter] ∧ (letter = 'l' ∨ letter = 'L') ∧
      firstMatch numberRules numeral.text = some (.number, front.length) := by
  cases numeral with
  | decimal | octal | hexadecimal | binary | scaled => exact long.elim
  | pointed digits fraction exponent letter nonempty inside fractionInside lettered =>
      cases exponent with
      | some exponent => exact long.elim
      | none =>
          have taken := firstMatch_fraction inside lettered nonempty fractionInside
          rcases long with rfl | rfl
          · exact ⟨_, 'l', rfl, .inl rfl, taken⟩
          · exact ⟨_, 'L', rfl, .inr rfl, taken⟩

theorem lex_of_whole {numeral : Numeral} (whole : ¬numeral.IsLongFraction) (dialect : Dialect) :
    lex dialect numeral.text = .ok [⟨.number, numeral.text, 0⟩] := by
  have found := numeral.startsNumber.firstMatch_rules (numeral.firstMatch_numberRules whole) dialect
  have run : lexFrom dialect.rules 0 (numeral.text ++ []) = .ok [⟨.number, numeral.text, 0⟩] :=
    lexFrom_cons (by rwa [List.append_nil]) (lexFrom_nil _ _)
  rwa [List.append_nil] at run

theorem lex_of_longFraction {numeral : Numeral} (long : numeral.IsLongFraction) (dialect : Dialect) :
    ∃ front letter, numeral.text = front ++ [letter] ∧ (letter = 'l' ∨ letter = 'L') ∧
      lex dialect numeral.text =
        .ok [⟨.number, front, 0⟩, ⟨.identifier, [letter], utf8Length front⟩] := by
  obtain ⟨front, letter, spelled, isLong, taken⟩ := firstMatch_longFraction long
  have found := numeral.startsNumber.firstMatch_rules taken dialect
  rw [spelled] at found
  have name : firstMatch dialect.rules ([letter] ++ []) = some (.identifier, 1) := by
    rcases isLong with rfl | rfl <;> cases dialect <;> decide
  have later : lexFrom dialect.rules (0 + utf8Length front) ([letter] ++ []) =
      .ok [⟨.identifier, [letter], utf8Length front⟩] := by
    rw [Nat.zero_add]
    exact lexFrom_cons name (lexFrom_nil _ _)
  refine ⟨front, letter, spelled, isLong, ?_⟩
  rw [spelled]
  exact lexFrom_cons found later

/-- A numeric literal is lexed as one number exactly when it is no fraction with the letter l or L and
    without an exponent. Such a fraction is a number and a name, which is the letter. -/
theorem lex_text_iff (numeral : Numeral) (dialect : Dialect) :
    (lex dialect numeral.text = .ok [⟨.number, numeral.text, 0⟩] ↔ ¬numeral.IsLongFraction) ∧
    (numeral.IsLongFraction → ∃ front letter, numeral.text = front ++ [letter] ∧
      (letter = 'l' ∨ letter = 'L') ∧ lex dialect numeral.text =
        .ok [⟨.number, front, 0⟩, ⟨.identifier, [letter], utf8Length front⟩]) := by
  refine ⟨⟨fun one long => ?_, fun whole => lex_of_whole whole dialect⟩,
    fun long => lex_of_longFraction long dialect⟩
  obtain ⟨front, letter, -, -, two⟩ := lex_of_longFraction long dialect
  rw [one] at two
  cases two

/-- The number one and a half with the letter of long precision. -/
def longFraction : Numeral :=
  .pointed ['1'] ['5'] none ['L'] (by decide) (List.forall_mem_singleton.mpr rfl)
    (List.forall_mem_singleton.mpr rfl) (by decide)

/-- It is lexed as two lexemes in either dialect. -/
theorem lex_longFraction : longFraction.text = "1.5L".toList ∧ ∀ dialect,
    lex dialect "1.5L".toList = .ok [⟨.number, "1.5".toList, 0⟩, ⟨.identifier, ['L'], 3⟩] ∧
    lex dialect "1.5L".toList ≠ .ok [⟨.number, "1.5L".toList, 0⟩] := by
  refine ⟨rfl, fun dialect => ?_⟩
  obtain ⟨one, two⟩ := lex_text_iff longFraction dialect
  have long : longFraction.IsLongFraction := .inr rfl
  obtain ⟨front, letter, spelled, -, run⟩ := two long
  obtain ⟨rfl, same⟩ := List.append_inj' (spelled : "1.5".toList ++ ['L'] = front ++ [letter]) rfl
  obtain rfl := (List.cons.inj same).1
  exact ⟨run, fun whole => one.mp whole long⟩

end Numeral

end SymbolCorpus.PseudoCode
