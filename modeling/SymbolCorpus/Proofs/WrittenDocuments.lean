import Mathlib.Data.List.DropRight
import SymbolCorpus.Json.Reader
import SymbolCorpus.Json.Writer
import SymbolCorpus.Proofs.RawTexts

/-! # Documents are read as they were written

A written document is one of many texts that spell it: blanks may stand between its parts, and a
reader passes over them. So what holds of all texts that spell a document holds of the ones without
blanks and of the ones that are laid out.
-/

namespace SymbolCorpus

/-! ## Octets -/

/-- Whatever octets stand before those of a text, behind them its characters are read one by one. -/
theorem Text.charsFrom_append_utf8Encode (before : ByteArray) (text : List Char) :
    charsFrom (before ++ text.utf8Encode) before.size = text.map some := by
  induction text generalizing before with
  | nil => simp [charsFrom]
  | cons c text ih =>
      obtain ⟨inside, decoded, whole, width⟩ := Text.utf8DecodeChar?_behind before c text
      have rest := ih (before ++ [c].utf8Encode)
      rw [← whole, width] at rest
      rw [charsFrom, if_pos inside, decoded, List.map_cons, ← rest]

theorem Text.charsOfOctets_toOctets (text : List Char) :
    charsOfOctets (toOctets text) = text.map some := by
  have chars := charsFrom_append_utf8Encode .empty text
  rw [ByteArray.empty_append] at chars
  exact chars

namespace Json

/-! ## Strings -/

/-- The part of a string that a written character is read as. -/
def partOf (c : Char) : StringPart :=
  if isControl c && !(['\x08', '\x0c', '\n', '\r', '\t'].contains c) then .codeUnit c.toNat
  else .char c

theorem hexValues?_control : ∀ code < 0x20,
    hexValues? '0' '0' (hexDigit (code / 16)) (hexDigit (code % 16)) = some code := by
  decide

theorem stringParts_escape {c e : Char} (notUnit : e ≠ 'u') (escape : simpleEscape? e = some c)
    (rest : List Char) : stringParts ('\\' :: e :: rest) =
      (stringParts rest).map fun (parts, after) => (.char c :: parts, after) := by
  rw [stringParts.eq_def]
  split
  · next same => cases same
  · next same => cases same
  · next same => cases same; exact absurd rfl notUnit
  · next same =>
      cases same
      simp only [escape, Option.map_eq_bind]
      rfl
  · next noEscape same =>
      cases same
      exact absurd rfl (noEscape e rest rfl)

theorem stringParts_plain {c : Char} (notQuote : c ≠ '"') (notEscape : c ≠ '\\')
    (visible : isControl c = false) (rest : List Char) :
    stringParts (c :: rest) =
      (stringParts rest).map fun (parts, after) => (.char c :: parts, after) := by
  have notStray : c ≠ substitute := by
    rintro rfl
    cases visible
  rw [stringParts.eq_def]
  split
  · next same => cases same
  · next same => cases same; exact absurd rfl notQuote
  · next same => cases same; exact absurd rfl notEscape
  · next same => cases same; exact absurd rfl notEscape
  · next same =>
      cases same
      rw [if_neg notEscape, if_neg notStray, visible, if_neg Bool.false_ne_true, Option.map_eq_bind]
      rfl

theorem stringParts_escapeChar (c : Char) (rest : List Char) :
    stringParts (escapeChar c ++ rest) =
      (stringParts rest).map fun (parts, after) => (partOf c :: parts, after) := by
  unfold escapeChar
  split
  -- The characters with an escape of their own.
  iterate 7 exact stringParts_escape (by decide) rfl rest
  next quote escape backspace feed line carriage tab =>
    split
    · next control =>
        have part : partOf c = .codeUnit c.toNat := by
          simp_all [partOf, isControl]
        simp only [List.cons_append, List.nil_append, stringParts, hexValues?_control c.toNat control,
          part, Option.map_eq_bind]
        rfl
    · next visible =>
        have plain : isControl c = false := by simpa [isControl] using visible
        have part : partOf c = .char c := by simp [partOf, plain]
        rw [part]
        exact stringParts_plain quote escape plain rest

theorem textOfParts_codeUnit {value : Nat} (low : value < 0xd800) (rest : List StringPart) :
    textOfParts (.codeUnit value :: rest) = (textOfParts rest).map (Char.ofNat value :: ·) := by
  have notLeading : isLeading value = false := by simp [isLeading]; omega
  have notTrailing : isTrailing value = false := by simp [isTrailing]; omega
  rcases rest with _ | ⟨_ | trailing | _, rest⟩ <;> simp [textOfParts, notLeading, notTrailing]

theorem partOf_eq (c : Char) :
    partOf c = .char c ∨ partOf c = .codeUnit c.toNat ∧ c.toNat < 0x20 := by
  unfold partOf
  split
  · next control => exact .inr ⟨rfl, by simp_all [isControl]⟩
  · exact .inl rfl

theorem textOfParts_map_partOf (text : List Char) : textOfParts (text.map partOf) = some text := by
  induction text with
  | nil => rfl
  | cons c rest ih =>
      rw [List.map_cons]
      rcases partOf_eq c with plain | ⟨unit, control⟩
      · rw [plain, textOfParts, ih, Option.map_some]
      · rw [unit, textOfParts_codeUnit (by omega), ih, Option.map_some, Char.ofNat_toNat]

theorem readString_flatMap_escapeChar (text rest : List Char) :
    readString (text.flatMap escapeChar ++ '"' :: rest) = some (some text, rest) := by
  have parts : stringParts (text.flatMap escapeChar ++ '"' :: rest) =
      some (text.map partOf, rest) := by
    induction text with
    | nil => rfl
    | cons c text ih =>
        rw [List.flatMap_cons, List.append_assoc, stringParts_escapeChar, ih]
        rfl
  rw [readString, parts]
  exact congrArg (fun text => some (text, rest)) (textOfParts_map_partOf text)

/-! ## Numbers -/

/-- No number goes on with these characters. -/
def EndsNumber (rest : List Char) : Prop :=
  ∀ c ∈ rest.head?, c.isDigit = false ∧ c ≠ '.' ∧ c ≠ 'e' ∧ c ≠ 'E'

theorem digitsValue_toDigits (value : Nat) : digitsValue (Nat.toDigits 10 value) = value :=
  Nat.ofDigitChars_ten_toDigits

theorem isDigit_toDigits (value : Nat) : ∀ c ∈ Nat.toDigits 10 value, c.isDigit = true := fun _ =>
  Nat.isDigit_of_mem_toDigits (by decide) (by decide)

theorem eq_zero_of_toDigits {value : Nat} {rest : List Char}
    (h : Nat.toDigits 10 value = '0' :: rest) : value = 0 ∧ rest = [] := by
  induction value using Nat.strongRecOn generalizing rest with
  | ind value ih =>
      by_cases small : value < 10
      · rw [Nat.toDigits_of_lt_base small, List.cons.injEq] at h
        have digits : ∀ digit < 10, Nat.digitChar digit = '0' → digit = 0 := by decide
        exact ⟨digits value small h.1, h.2.symm⟩
      · have large : 10 ≤ value := by omega
        rw [Nat.toDigits_of_base_le (by decide) large] at h
        cases front : Nat.toDigits 10 (value / 10) with
        | nil => exact absurd front Nat.toDigits_ne_nil
        | cons c more =>
            rw [front] at h
            obtain rfl := (List.cons.inj h).1
            have quotient := (ih (value / 10) (by omega) front).1
            omega

theorem takeWhile_isDigit {digits rest : List Char} (all : ∀ c ∈ digits, c.isDigit = true)
    (ends : EndsNumber rest) :
    (digits ++ rest).takeWhile Char.isDigit = digits ∧
      (digits ++ rest).dropWhile Char.isDigit = rest := by
  rw [List.takeWhile_append_of_pos all, List.dropWhile_append_of_pos all]
  cases rest with
  | nil => simp
  | cons c rest => simp [(ends c rfl).1]

theorem wholePart?_toDigits (value : Nat) {rest : List Char} (ends : EndsNumber rest) :
    wholePart? (Nat.toDigits 10 value ++ rest) = some (Nat.toDigits 10 value, rest) := by
  obtain ⟨taken, dropped⟩ := takeWhile_isDigit (isDigit_toDigits value) ends
  rw [wholePart?.eq_def]
  split
  · next after zero =>
      cases front : Nat.toDigits 10 value with
      | nil => exact absurd front Nat.toDigits_ne_nil
      | cons c more =>
          rw [front] at zero
          obtain rfl := (List.cons.inj zero).1
          obtain rfl := (eq_zero_of_toDigits front).2
          cases zero
          rfl
  · simp only [taken, dropped]
    rw [if_neg (by simp [Nat.toDigits_ne_nil])]

theorem readMagnitude_toDigits (negative : Bool) (magnitude : Nat) {rest : List Char}
    (ends : EndsNumber rest) :
    readMagnitude negative (Nat.toDigits 10 magnitude ++ rest) =
      some (.integer negative magnitude, rest) := by
  have noFraction : afterFraction? rest = some rest := by
    unfold afterFraction?
    split
    · next more => exact absurd rfl (ends '.' rfl).2.1
    · rfl
  have noExponent : afterExponent? rest = some rest := by
    cases rest with
    | nil => rfl
    | cons c more =>
        obtain ⟨-, -, small, capital⟩ := ends c rfl
        simp [afterExponent?, small, capital]
  simp [readMagnitude, wholePart?_toDigits magnitude ends, noFraction, noExponent,
    digitsValue_toDigits]

theorem readNumber_writeInteger (negative : Bool) (magnitude : Nat) {rest : List Char}
    (ends : EndsNumber rest) :
    readNumber (writeInteger negative magnitude ++ rest) =
      some (.integer negative magnitude, rest) := by
  cases negative with
  | true => exact readMagnitude_toDigits true magnitude ends
  | false =>
      have read := readMagnitude_toDigits false magnitude ends
      rw [writeInteger, if_neg Bool.false_ne_true, readNumber.eq_def]
      split
      · next more sign =>
          cases front : Nat.toDigits 10 magnitude with
          | nil => exact absurd front Nat.toDigits_ne_nil
          | cons c digits =>
              rw [front] at sign
              obtain rfl := (List.cons.inj sign).1
              have digit := isDigit_toDigits magnitude '-' (by simp [front])
              cases digit
      · exact read

/-! ## Documents -/

/-- A document in which every string and every key stands for a text and every number is an integer. -/
inductive Plain : Json → Prop where
  | null : Plain .null
  | bool (value : Bool) : Plain (.bool value)
  | integer (negative : Bool) (magnitude : Nat) : Plain (.integer negative magnitude)
  | string (text : List Char) : Plain (.string (some text))
  | array {items : List Json} : (∀ item ∈ items, Plain item) → Plain (.array items)
  | object {fields : List (Option (List Char) × Json)} : (∀ field ∈ fields, field.1.isSome = true) →
      (∀ field ∈ fields, Plain field.2) → Plain (.object fields)

/-- White space between the parts of a document. -/
def IsGap (text : List Char) : Prop := text.all isBlank = true

mutual

/-- The text spells the document, whatever white space stands between its parts. -/
inductive Spells : Json → List Char → Prop where
  | null : Spells .null "null".toList
  | bool (value : Bool) : Spells (.bool value) (writeScalar (.bool value))
  | integer (negative : Bool) (magnitude : Nat) :
      Spells (.integer negative magnitude) (writeInteger negative magnitude)
  | string (text : List Char) : Spells (.string (some text)) (writeString text)
  | noItems : Spells (.array []) ['[', ']']
  | array {items : List Json} {text : List Char} : SpellsItems items text →
      Spells (.array items) ('[' :: text)
  | noFields : Spells (.object []) ['{', '}']
  | object {fields : List (Option (List Char) × Json)} {text : List Char} : SpellsFields fields text →
      Spells (.object fields) ('{' :: text)

/-- The text spells the items of an array and its end. -/
inductive SpellsItems : List Json → List Char → Prop where
  | last {item : Json} {text before after : List Char} : IsGap before → Spells item text →
      IsGap after → SpellsItems [item] (before ++ (text ++ (after ++ [']'])))
  | next {item : Json} {items : List Json} {text before rest : List Char} : IsGap before →
      Spells item text → SpellsItems items rest →
      SpellsItems (item :: items) (before ++ (text ++ ',' :: rest))

/-- The text spells the fields of an object and its end. -/
inductive SpellsFields : List (Option (List Char) × Json) → List Char → Prop where
  | last {key : List Char} {value : Json} {text before between after : List Char} : IsGap before →
      IsGap between → Spells value text → IsGap after →
      SpellsFields [(some key, value)]
        (before ++ (writeString key ++ ':' :: (between ++ (text ++ (after ++ ['}'])))))
  | next {key : List Char} {value : Json} {fields : List (Option (List Char) × Json)}
      {text before between rest : List Char} : IsGap before → IsGap between → Spells value text →
      SpellsFields fields rest →
      SpellsFields ((some key, value) :: fields)
        (before ++ (writeString key ++ ':' :: (between ++ (text ++ ',' :: rest))))

end

/-! ## What is written spells the document -/

theorem isGap_nil : IsGap [] := rfl

theorem isGap_newLine (level : Nat) : IsGap (newLine level) := by
  simp [IsGap, newLine, isBlank]

/-! Both ways of writing have the same white space before every part and before the end. -/

section

variable {write : Json → List Char} {before between after : List Char}

theorem spellsItems_of {others : List Json → List Char} (blank : IsGap before) (blank' : IsGap after)
    (noMore : others [] = after ++ [']'])
    (more : ∀ item items, others (item :: items) = ',' :: before ++ write item ++ others items)
    {item : Json} {items : List Json} (first : Spells item (write item))
    (rest : ∀ item ∈ items, Spells item (write item)) :
    SpellsItems (item :: items) (before ++ write item ++ others items) := by
  induction items generalizing item with
  | nil => simpa [noMore] using SpellsItems.last blank first blank'
  | cons next items ih =>
      rw [List.forall_mem_cons] at rest
      simpa [more] using SpellsItems.next blank first (ih rest.1 rest.2)

theorem spellsFields_of {others : List (Option (List Char) × Json) → List Char}
    (blank : IsGap before) (space : IsGap between) (blank' : IsGap after)
    (noMore : others [] = after ++ ['}'])
    (more : ∀ key value fields, others ((key, value) :: fields) =
      ',' :: before ++ writeKey key ++ ':' :: (between ++ write value) ++ others fields)
    {key : Option (List Char)} {value : Json} {fields : List (Option (List Char) × Json)}
    (named : key.isSome = true) (first : Spells value (write value))
    (keyed : ∀ field ∈ fields, field.1.isSome = true)
    (rest : ∀ field ∈ fields, Spells field.2 (write field.2)) :
    SpellsFields ((key, value) :: fields)
      (before ++ writeKey key ++ ':' :: (between ++ write value) ++ others fields) := by
  induction fields generalizing key value with
  | nil =>
      obtain ⟨name, rfl⟩ := Option.isSome_iff_exists.mp named
      have last : SpellsFields [(some name, value)] _ := .last blank space first blank'
      simpa [writeKey, noMore] using last
  | cons field fields ih =>
      obtain ⟨name, rfl⟩ := Option.isSome_iff_exists.mp named
      rw [List.forall_mem_cons] at keyed rest
      have next : SpellsFields ((some name, value) :: field :: fields) _ :=
        .next blank space first (ih keyed.1 rest.1 keyed.2 rest.2)
      simpa [writeKey, more] using next

end

theorem spells_write {value : Json} (plain : value.Plain) : Spells value value.write := by
  induction plain with
  | null => exact .null
  | bool value => exact .bool value
  | integer negative magnitude => exact .integer negative magnitude
  | string text => exact .string text
  | @array items _ each =>
      cases items with
      | nil => exact .noItems
      | cons item items =>
          rw [List.forall_mem_cons] at each
          exact .array (spellsItems_of isGap_nil isGap_nil rfl (fun _ _ => rfl) each.1 each.2)
  | @object fields keyed _ each =>
      cases fields with
      | nil => exact .noFields
      | cons field fields =>
          rw [List.forall_mem_cons] at keyed each
          exact .object (spellsFields_of isGap_nil isGap_nil isGap_nil rfl (fun _ _ _ => rfl)
            keyed.1 each.1 keyed.2 each.2)

theorem spells_layOut {value : Json} (plain : value.Plain) (level : Nat) :
    Spells value (value.layOut level) := by
  have space : IsGap [' '] := rfl
  induction plain generalizing level with
  | null => exact .null
  | bool value => exact .bool value
  | integer negative magnitude => exact .integer negative magnitude
  | string text => exact .string text
  | @array items _ each =>
      cases items with
      | nil => exact .noItems
      | cons item items =>
          rw [List.forall_mem_cons] at each
          exact .array (spellsItems_of (isGap_newLine (level + 1)) (isGap_newLine level) rfl
            (fun _ _ => rfl) (each.1 _) fun item member => each.2 item member _)
  | @object fields keyed _ each =>
      cases fields with
      | nil => exact .noFields
      | cons field fields =>
          rw [List.forall_mem_cons] at keyed each
          exact .object (spellsFields_of (isGap_newLine (level + 1)) space (isGap_newLine level) rfl
            (fun _ _ _ => rfl) keyed.1 (each.1 _) keyed.2 fun field member => each.2 field member _)

/-! ## What spells a document is read as it -/

theorem skipBlanks_append {gap : List Char} (blank : IsGap gap) (text : List Char) :
    skipBlanks (gap ++ text) = skipBlanks text :=
  List.dropWhile_append_of_pos (List.all_eq_true.mp blank)

theorem skipBlanks_idem (text : List Char) : skipBlanks (skipBlanks text) = skipBlanks text :=
  List.dropWhile_idempotent isBlank text

theorem skipBlanks_cons {c : Char} (visible : isBlank c = false) (rest : List Char) :
    skipBlanks (c :: rest) = c :: rest := by
  rw [skipBlanks, List.dropWhile_cons_of_neg (by simp [visible])]

theorem readValue_skipBlanks (fuel : Nat) (text : List Char) :
    readValue fuel (skipBlanks text) = readValue fuel text := by
  cases fuel with
  | zero => rfl
  | succ fuel => rw [readValue, readValue, skipBlanks_idem]

theorem readItems_skipBlanks (fuel : Nat) (text : List Char) :
    readItems fuel (skipBlanks text) = readItems fuel text := by
  cases fuel with
  | zero => rfl
  | succ fuel => rw [readItems, readItems, readValue_skipBlanks]

theorem readFields_skipBlanks (fuel : Nat) (text : List Char) :
    readFields fuel (skipBlanks text) = readFields fuel text := by
  cases fuel with
  | zero => rfl
  | succ fuel => rw [readFields, readFields, skipBlanks_idem]

theorem readValue_gap {gap : List Char} (blank : IsGap gap) (fuel : Nat) (text : List Char) :
    readValue fuel (gap ++ text) = readValue fuel text := by
  rw [← readValue_skipBlanks, skipBlanks_append blank, readValue_skipBlanks]

/-- A number begins with a sign or a digit. -/
def BeginsNumber (c : Char) : Prop := c = '-' ∨ c.isDigit = true

theorem exists_writeInteger (negative : Bool) (magnitude : Nat) :
    ∃ c rest, writeInteger negative magnitude = c :: rest ∧ BeginsNumber c := by
  cases negative with
  | true => exact ⟨'-', _, rfl, .inl rfl⟩
  | false =>
      cases front : Nat.toDigits 10 magnitude with
      | nil => exact absurd front Nat.toDigits_ne_nil
      | cons c rest => exact ⟨c, rest, front, .inr (isDigit_toDigits magnitude c (by simp [front]))⟩

theorem BeginsNumber.ne {c : Char} (h : BeginsNumber c) {d : Char}
    (other : (d == '-' || d.isDigit) = false) : c ≠ d := by
  rintro rfl
  rw [Bool.or_eq_false_iff, beq_eq_false_iff_ne] at other
  rcases h with sign | digit
  · exact other.1 sign
  · exact Bool.false_ne_true (other.2.symm.trans digit)

theorem BeginsNumber.isBlank {c : Char} (h : BeginsNumber c) : isBlank c = false := by
  have space : c ≠ ' ' := h.ne rfl
  have tab : c ≠ '\t' := h.ne rfl
  have line : c ≠ '\n' := h.ne rfl
  have carriage : c ≠ '\r' := h.ne rfl
  simp [Json.isBlank, space, tab, line, carriage]

theorem readValue_number {c : Char} (number : BeginsNumber c) (fuel : Nat) (text : List Char) :
    readValue (fuel + 1) (c :: text) = readNumber (c :: text) := by
  rw [readValue, skipBlanks_cons number.isBlank]
  split
  iterate 6 next same => exact absurd (List.cons.inj same).1 (number.ne rfl)
  rfl

theorem readValue_array {fuel : Nat} {text after : List Char} {items : List Json}
    (nonempty : ∀ rest, skipBlanks text ≠ ']' :: rest)
    (read : readItems fuel text = some (items, after)) :
    readValue (fuel + 1) ('[' :: text) = some (.array items, after) := by
  have opening : skipBlanks ('[' :: text) = '[' :: text := skipBlanks_cons rfl text
  simp only [readValue, opening]
  rw [readItems_skipBlanks, read]
  rfl

theorem readValue_object {fuel : Nat} {text after : List Char}
    {fields : List (Option (List Char) × Json)} (nonempty : ∀ rest, skipBlanks text ≠ '}' :: rest)
    (read : readFields fuel text = some (fields, after)) :
    readValue (fuel + 1) ('{' :: text) = some (.object fields, after) := by
  have opening : skipBlanks ('{' :: text) = '{' :: text := skipBlanks_cons rfl text
  simp only [readValue, opening]
  rw [readFields_skipBlanks, read]
  rfl

theorem readItems_last {fuel : Nat} {text gap after : List Char} {item : Json} (blank : IsGap gap)
    (read : readValue fuel text = some (item, gap ++ ']' :: after)) :
    readItems (fuel + 1) text = some ([item], after) := by
  have closing : skipBlanks (gap ++ ']' :: after) = ']' :: after := by
    rw [skipBlanks_append blank, skipBlanks_cons rfl]
  simp [readItems, read, closing]

theorem readItems_next {fuel : Nat} {text rest after : List Char} {item : Json} {items : List Json}
    (read : readValue fuel text = some (item, ',' :: rest))
    (others : readItems fuel rest = some (items, after)) :
    readItems (fuel + 1) text = some (item :: items, after) := by
  have comma : skipBlanks (',' :: rest) = ',' :: rest := skipBlanks_cons rfl rest
  simp [readItems, read, comma, others]

theorem skipBlanks_key {gap : List Char} (blank : IsGap gap) (key text : List Char) :
    skipBlanks (gap ++ (writeString key ++ text)) =
      '"' :: (key.flatMap escapeChar ++ '"' :: text) := by
  rw [skipBlanks_append blank]
  simp [writeString, skipBlanks, isBlank]

theorem readFields_last {fuel : Nat} (key : List Char) {text before gap after : List Char} {value : Json}
    (blank : IsGap before) (blank' : IsGap gap)
    (read : readValue fuel text = some (value, gap ++ '}' :: after)) :
    readFields (fuel + 1) (before ++ (writeString key ++ ':' :: text)) =
      some ([(some key, value)], after) := by
  have colon : skipBlanks (':' :: text) = ':' :: text := skipBlanks_cons rfl text
  have closing : skipBlanks (gap ++ '}' :: after) = '}' :: after := by
    rw [skipBlanks_append blank', skipBlanks_cons rfl]
  simp [readFields, skipBlanks_key blank, readString_flatMap_escapeChar, colon, read, closing]

theorem readFields_next {fuel : Nat} (key : List Char) {text before rest after : List Char} {value : Json}
    {fields : List (Option (List Char) × Json)} (blank : IsGap before)
    (read : readValue fuel text = some (value, ',' :: rest))
    (others : readFields fuel rest = some (fields, after)) :
    readFields (fuel + 1) (before ++ (writeString key ++ ':' :: text)) =
      some ((some key, value) :: fields, after) := by
  have colon : skipBlanks (':' :: text) = ':' :: text := skipBlanks_cons rfl text
  have comma : skipBlanks (',' :: rest) = ',' :: rest := skipBlanks_cons rfl rest
  simp [readFields, skipBlanks_key blank, readString_flatMap_escapeChar, colon, read, comma, others]

theorem Spells.exists_beginning {value : Json} {text : List Char} (h : Spells value text) :
    ∃ c rest, text = c :: rest ∧ isBlank c = false ∧ c ≠ ']' := by
  cases h with
  | null => exact ⟨_, _, rfl, rfl, by decide⟩
  | bool value => cases value <;> exact ⟨_, _, rfl, rfl, by decide⟩
  | integer negative magnitude =>
      obtain ⟨c, rest, whole, number⟩ := exists_writeInteger negative magnitude
      exact ⟨c, rest, whole, number.isBlank, number.ne rfl⟩
  | string text => exact ⟨_, _, rfl, rfl, by decide⟩
  | noItems => exact ⟨_, _, rfl, rfl, by decide⟩
  | array => exact ⟨_, _, rfl, rfl, by decide⟩
  | noFields => exact ⟨_, _, rfl, rfl, by decide⟩
  | object => exact ⟨_, _, rfl, rfl, by decide⟩

theorem Spells.skipBlanks_ne {value : Json} {text gap : List Char} (h : Spells value text)
    (blank : IsGap gap) (rest after : List Char) :
    skipBlanks (gap ++ (text ++ rest)) ≠ ']' :: after := by
  obtain ⟨c, more, rfl, visible, apart⟩ := h.exists_beginning
  rw [skipBlanks_append blank, List.cons_append, skipBlanks_cons visible]
  exact fun same => apart (List.cons.inj same).1

theorem SpellsItems.skipBlanks_ne {items : List Json} {text : List Char} (h : SpellsItems items text)
    (rest after : List Char) : skipBlanks (text ++ rest) ≠ ']' :: after := by
  cases h with
  | last blank spelled _ =>
      rw [List.append_assoc, List.append_assoc]
      exact spelled.skipBlanks_ne blank _ after
  | next blank spelled _ =>
      rw [List.append_assoc, List.append_assoc]
      exact spelled.skipBlanks_ne blank _ after

theorem SpellsFields.skipBlanks_ne {fields : List (Option (List Char) × Json)} {text : List Char}
    (h : SpellsFields fields text) (rest after : List Char) :
    skipBlanks (text ++ rest) ≠ '}' :: after := by
  cases h with
  | last blank =>
      rw [List.append_assoc, List.append_assoc, skipBlanks_key blank]
      exact fun same => absurd (List.cons.inj same).1 (by decide)
  | next blank =>
      rw [List.append_assoc, List.append_assoc, skipBlanks_key blank]
      exact fun same => absurd (List.cons.inj same).1 (by decide)

theorem Spells.length_pos {value : Json} {text : List Char} (h : Spells value text) :
    0 < text.length := by
  obtain ⟨c, rest, rfl, -⟩ := h.exists_beginning
  exact Nat.succ_pos _

theorem endsNumber_gap {gap : List Char} (blank : IsGap gap) {c : Char}
    (mark : c = ',' ∨ c = ']' ∨ c = '}') (rest : List Char) : EndsNumber (gap ++ c :: rest) := by
  intro d first
  cases gap with
  | nil =>
      cases first
      rcases mark with rfl | rfl | rfl <;> decide
  | cons space gap =>
      cases first
      have space : isBlank d = true := List.all_eq_true.mp blank d List.mem_cons_self
      simp only [isBlank, Bool.or_eq_true, beq_iff_eq] at space
      rcases space with ((rfl | rfl) | rfl) | rfl <;> decide

/-- With fuel for every character and as much again, a text is read as the value that it spells. -/
theorem readValue_spelled (fuel : Nat) :
    (∀ value text rest, Spells value text → 2 * text.length ≤ fuel → EndsNumber rest →
      readValue fuel (text ++ rest) = some (value, rest)) ∧
    (∀ items text rest, SpellsItems items text → 2 * text.length + 1 ≤ fuel →
      readItems fuel (text ++ rest) = some (items, rest)) ∧
    ∀ fields text rest, SpellsFields fields text → 2 * text.length + 1 ≤ fuel →
      readFields fuel (text ++ rest) = some (fields, rest) := by
  induction fuel with
  | zero =>
      refine ⟨fun value text rest spelled enough _ => ?_, by omega, by omega⟩
      have some := spelled.length_pos
      omega
  | succ fuel ih =>
      obtain ⟨ihValue, ihItems, ihFields⟩ := ih
      refine ⟨?_, ?_, ?_⟩
      · intro value text rest spelled enough ends
        cases spelled with
        | null => rfl
        | bool value => cases value <;> rfl
        | integer negative magnitude =>
            obtain ⟨c, more, whole, number⟩ := exists_writeInteger negative magnitude
            have read := readNumber_writeInteger negative magnitude ends
            rw [whole] at read ⊢
            exact (readValue_number number fuel _).trans read
        | string text =>
            have read := readString_flatMap_escapeChar text rest
            rw [writeString, List.append_assoc, List.cons_append, readValue, skipBlanks_cons rfl]
            change (readString (text.flatMap escapeChar ++ '"' :: rest)).map _ = _
            rw [read]
            rfl
        | noItems => rfl
        | array items =>
            rw [List.length_cons] at enough
            exact readValue_array (items.skipBlanks_ne rest)
              (ihItems _ _ rest items (by omega))
        | noFields => rfl
        | object fields =>
            rw [List.length_cons] at enough
            exact readValue_object (fields.skipBlanks_ne rest)
              (ihFields _ _ rest fields (by omega))
      · intro items text rest spelled enough
        cases spelled with
        | @last item text before after blank item blank' =>
            simp only [List.length_append, List.length_singleton] at enough
            have read := ihValue _ _ (after ++ ']' :: rest) item (by omega)
              (endsNumber_gap blank' (.inr (.inl rfl)) rest)
            rw [← readValue_gap blank] at read
            have items := readItems_last blank' read
            simpa using items
        | @next item items text before more blank item items =>
            simp only [List.length_append, List.length_cons] at enough
            have read := ihValue _ _ (',' :: (more ++ rest)) item (by omega)
              (endsNumber_gap isGap_nil (.inl rfl) _)
            rw [← readValue_gap blank] at read
            have items := readItems_next read (ihItems _ _ rest items (by omega))
            simpa using items
      · intro fields text rest spelled enough
        cases spelled with
        | @last key value text before between after blank blank' value blank'' =>
            simp only [List.length_append, List.length_cons] at enough
            have read := ihValue _ _ (after ++ '}' :: rest) value (by omega)
              (endsNumber_gap blank'' (.inr (.inr rfl)) rest)
            rw [← readValue_gap blank'] at read
            have fields := readFields_last key blank blank'' read
            simpa using fields
        | @next key value fields text before between more blank blank' value fields =>
            simp only [List.length_append, List.length_cons] at enough
            have read := ihValue _ _ (',' :: (more ++ rest)) value (by omega)
              (endsNumber_gap isGap_nil (.inl rfl) _)
            rw [← readValue_gap blank'] at read
            have fields := readFields_next key blank read (ihFields _ _ rest fields (by omega))
            simpa using fields

theorem readDocument_spelled {value : Json} {text : List Char} (h : Spells value text) :
    readDocument text = some value := by
  have read := (readValue_spelled (2 * text.length + 2)).1 value text [] h (by omega) nofun
  rw [List.append_nil] at read
  rw [readDocument, read]
  rfl

/-! ## No control is written as it is -/

theorem substitute_not_mem_escapeChar (c : Char) : substitute ∉ escapeChar c := by
  have digits : ∀ code < 0x20, substitute ∉ [hexDigit (code / 16), hexDigit (code % 16)] := by
    decide
  unfold escapeChar
  split
  iterate 7 decide
  split
  · next control =>
      simp only [List.mem_cons, not_or]
      refine ⟨by decide, by decide, by decide, by decide, ?_⟩
      simpa using digits c.toNat control
  · next visible =>
      intro member
      rw [← List.mem_singleton.mp member] at visible
      exact visible (by decide)

theorem substitute_not_mem_writeString (text : List Char) : substitute ∉ writeString text := by
  have quote : substitute ≠ '"' := by decide
  simp [writeString, quote, substitute_not_mem_escapeChar]

theorem substitute_not_mem_writeInteger (negative : Bool) (magnitude : Nat) :
    substitute ∉ writeInteger negative magnitude := by
  have digits : substitute ∉ Nat.toDigits 10 magnitude := by
    intro member
    have digit := isDigit_toDigits magnitude _ member
    cases digit
  have sign : substitute ≠ '-' := by decide
  cases negative <;> simp [writeInteger, digits, sign]

theorem substitute_not_mem_gap {gap : List Char} (blank : IsGap gap) : substitute ∉ gap := by
  intro member
  have space := List.all_eq_true.mp blank _ member
  cases space

mutual

theorem Spells.substitute_not_mem : ∀ {value : Json} {text : List Char}, Spells value text →
    substitute ∉ text
  | _, _, .null => by decide
  | _, _, .bool value => by cases value <;> decide
  | _, _, .integer negative magnitude => substitute_not_mem_writeInteger negative magnitude
  | _, _, .string text => substitute_not_mem_writeString text
  | _, _, .noItems => by decide
  | _, _, .array items => List.not_mem_cons_of_ne_of_not_mem (by decide) items.substitute_not_mem
  | _, _, .noFields => by decide
  | _, _, .object fields => List.not_mem_cons_of_ne_of_not_mem (by decide) fields.substitute_not_mem

theorem SpellsItems.substitute_not_mem : ∀ {items : List Json} {text : List Char},
    SpellsItems items text → substitute ∉ text
  | _, _, .last blank item blank' => by
      have closing : substitute ≠ ']' := by decide
      simp [substitute_not_mem_gap blank, item.substitute_not_mem, substitute_not_mem_gap blank', closing]
  | _, _, .next blank item items => by
      have comma : substitute ≠ ',' := by decide
      simp [substitute_not_mem_gap blank, item.substitute_not_mem, items.substitute_not_mem, comma]

theorem SpellsFields.substitute_not_mem : ∀ {fields : List (Option (List Char) × Json)}
    {text : List Char}, SpellsFields fields text → substitute ∉ text
  | _, _, .last blank blank' value blank'' => by
      have colon : substitute ≠ ':' := by decide
      have closing : substitute ≠ '}' := by decide
      simp [substitute_not_mem_gap blank, substitute_not_mem_gap blank', value.substitute_not_mem,
        substitute_not_mem_gap blank'', substitute_not_mem_writeString, colon, closing]
  | _, _, .next blank blank' value fields => by
      have colon : substitute ≠ ':' := by decide
      have comma : substitute ≠ ',' := by decide
      simp [substitute_not_mem_gap blank, substitute_not_mem_gap blank', value.substitute_not_mem,
        fields.substitute_not_mem, substitute_not_mem_writeString, colon, comma]

end

/-! ## Texts and octets -/

theorem read_spelled {value : Json} {text : List Char} (h : Spells value text) :
    read text = some value := by
  rw [read, if_neg (by simpa using h.substitute_not_mem)]
  exact readDocument_spelled h

theorem ofOctets_spelled {value : Json} {text : List Char} (h : Spells value text) :
    ofOctets (Text.toOctets text) = some value := by
  have noSubstitute : (text.map some).contains (some substitute) = false := by
    simpa using h.substitute_not_mem
  have chars : (text.map some).map (fun c => c.getD substitute) = text := by
    rw [List.map_map]
    exact List.map_id text
  rw [ofOctets, Text.charsOfOctets_toOctets, noSubstitute, if_neg Bool.false_ne_true, chars]
  exact readDocument_spelled h

end Json

end SymbolCorpus
