import Mathlib.Data.List.Induction
import Mathlib.Data.List.Lex
import SymbolCorpus.Proofs.Lines

/-! # Raw texts

What is done with a text and what is done with its octets agree: a text is read back from its octets,
a path is cut at the same slashes, and a name ends the same way. The reason is the same each time, that
an octet below 128 stands for a character by itself.
-/

namespace SymbolCorpus

open Text

/-! ## Texts and their octets -/

namespace Text

theorem ofOctets?_toOctets (text : List Char) : ofOctets? (toOctets text) = some text := by
  have valid : (toOctets text).IsValidUTF8 := (String.ofList text).isValidUTF8
  have decoded : String.fromUTF8 (toOctets text) valid = String.ofList text := rfl
  rw [ofOctets?, String.fromUTF8?, dif_pos valid, decoded, Option.map_some, String.toList_ofList]

theorem toOctets_injective : Function.Injective toOctets := by
  intro first second same
  have decoded := congrArg ofOctets? same
  rw [ofOctets?_toOctets, ofOctets?_toOctets] at decoded
  exact Option.some.inj decoded

/-- Whatever octets stand before those of a text, its first character is read behind them. -/
theorem utf8DecodeChar?_behind (before : ByteArray) (c : Char) (text : List Char) :
    before.size < (before ++ (c :: text).utf8Encode).size ∧
      (before ++ (c :: text).utf8Encode).utf8DecodeChar? before.size = some c ∧
      before ++ (c :: text).utf8Encode = (before ++ [c].utf8Encode) ++ text.utf8Encode ∧
      (before ++ [c].utf8Encode).size = before.size + c.utf8Size := by
  have width : [c].utf8Encode.size = c.utf8Size := by
    simp [List.utf8Encode_singleton]
  refine ⟨?_, ?_, ?_, ?_⟩
  · rw [ByteArray.size_append, List.utf8Encode_cons, ByteArray.size_append, width]
    have positive := c.utf8Size_pos
    omega
  · rw [ByteArray.utf8DecodeChar?_eq_utf8DecodeChar?_extract,
      ByteArray.extract_append_eq_right rfl ByteArray.size_append, List.utf8DecodeChar?_utf8Encode_cons]
  · rw [List.utf8Encode_cons, ByteArray.append_assoc]
  · rw [ByteArray.size_append, width]

theorem toNat_not_short {value : Nat} (long : 128 ≤ value) (bound : value < 256) :
    ¬ (UInt8.ofNat value).toNat < 128 := by
  rw [UInt8.toNat_ofNat']
  omega

theorem eq_of_mem_utf8EncodeChar {c : Char} {octet : UInt8} (h : octet ∈ String.utf8EncodeChar c)
    (short : octet.toNat < 128) : String.utf8EncodeChar c = [octet] ∧ c.toNat = octet.toNat := by
  unfold String.utf8EncodeChar at h ⊢
  dsimp only at h ⊢
  have value : c.val.toNat = c.toNat := rfl
  rw [value] at h ⊢
  split_ifs at h ⊢ with one
  · obtain rfl := List.mem_singleton.mp h
    refine ⟨rfl, ?_⟩
    rw [UInt8.toNat_ofNat']
    omega
  all_goals
    simp only [List.mem_cons, List.not_mem_nil, or_false] at h
    exfalso
    revert short
  · rcases h with rfl | rfl <;> exact toNat_not_short (by omega) (by omega)
  · rcases h with rfl | rfl | rfl <;> exact toNat_not_short (by omega) (by omega)
  · rcases h with rfl | rfl | rfl | rfl <;> exact toNat_not_short (by omega) (by omega)

/-- A character that is a single octet. -/
structure IsShort (c : Char) (octet : UInt8) : Prop where
  encoded : String.utf8EncodeChar c = [octet]
  short : octet.toNat < 128

theorem exists_isShort {c : Char} (h : c.toNat < 128) : ∃ octet, IsShort c octet := by
  have encoded : String.utf8EncodeChar c = [UInt8.ofNat c.toNat] := by
    unfold String.utf8EncodeChar
    exact if_pos (Nat.le_of_lt_succ h)
  refine ⟨_, encoded, ?_⟩
  rw [UInt8.toNat_ofNat']
  omega

theorem IsShort.eq {c other : Char} {octet : UInt8} (isShort : IsShort c octet)
    (h : octet ∈ String.utf8EncodeChar other) : other = c := by
  have here : octet ∈ String.utf8EncodeChar c := by simp [isShort.encoded]
  have value := (eq_of_mem_utf8EncodeChar here isShort.short).2
  have value' := (eq_of_mem_utf8EncodeChar h isShort.short).2
  exact Char.toNat_inj.mp (value'.trans value.symm)

theorem IsShort.not_mem {c : Char} {octet : UInt8} (isShort : IsShort c octet) {text : List Char}
    (h : c ∉ text) : octet ∉ text.flatMap String.utf8EncodeChar := by
  intro member
  obtain ⟨other, inText, inChar⟩ := List.mem_flatMap.mp member
  exact h (isShort.eq inChar ▸ inText)

theorem splitOn_append_of_not_mem {α : Type} [DecidableEq α] {separator : α} {before : List α}
    (plain : separator ∉ before) {rest part : List α} {parts : List (List α)}
    (cut : splitOn separator rest = part :: parts) :
    splitOn separator (before ++ rest) = (before ++ part) :: parts := by
  induction before with
  | nil => exact cut
  | cons c before ih =>
      rw [List.mem_cons, not_or] at plain
      exact splitOn_cons (Ne.symm plain.1) (ih plain.2)

/-- A text is cut at a character of a single octet as its octets are. -/
theorem IsShort.splitOn {c : Char} {octet : UInt8} (isShort : IsShort c octet) (text : List Char) :
    Text.splitOn octet (text.flatMap String.utf8EncodeChar) =
      (Text.splitOn c text).map (·.flatMap String.utf8EncodeChar) := by
  induction text with
  | nil => rfl
  | cons other rest ih =>
      rw [List.flatMap_cons]
      by_cases here : other = c
      · subst here
        rw [isShort.encoded, List.singleton_append, splitOn_separator, splitOn_separator, ih,
          List.map_cons, List.flatMap_nil]
      · obtain ⟨part, parts, cut⟩ := splitOn_eq_cons c rest
        rw [cut, List.map_cons] at ih
        have plain : octet ∉ String.utf8EncodeChar other := fun member => here (isShort.eq member)
        rw [splitOn_append_of_not_mem plain ih, splitOn_cons here cut, List.map_cons,
          List.flatMap_cons]

theorem flatMap_utf8EncodeChar_eq_nil {text : List Char} :
    text.flatMap String.utf8EncodeChar = [] ↔ text = [] := by
  cases text with
  | nil => simp
  | cons c rest => simp

theorem IsShort.head?_eq_iff {c : Char} {octet : UInt8} (isShort : IsShort c octet)
    {text : List Char} :
    (text.flatMap String.utf8EncodeChar).head? = some octet ↔ text.head? = some c := by
  cases text with
  | nil => simp
  | cons first rest =>
      obtain ⟨head, further, encoded⟩ :=
        List.exists_cons_of_ne_nil (by simp : String.utf8EncodeChar first ≠ [])
      simp only [List.flatMap_cons, encoded, List.cons_append, List.head?_cons, Option.some.injEq]
      constructor
      · rintro rfl
        exact isShort.eq (by simp [encoded])
      · rintro rfl
        exact (List.cons.inj (encoded.symm.trans isShort.encoded)).1

theorem IsShort.getLast?_eq_iff {c : Char} {octet : UInt8} (isShort : IsShort c octet)
    {text : List Char} :
    (text.flatMap String.utf8EncodeChar).getLast? = some octet ↔ text.getLast? = some c := by
  rcases List.eq_nil_or_concat text with rfl | ⟨front, last, rfl⟩
  · simp
  · obtain ⟨before, tail, encoded⟩ := (List.eq_nil_or_concat (String.utf8EncodeChar last)).resolve_left
      (by simp)
    rw [List.concat_eq_append] at encoded ⊢
    rw [List.flatMap_append, List.flatMap_singleton, encoded, ← List.append_assoc,
      List.getLast?_concat, List.getLast?_concat, Option.some.injEq, Option.some.injEq]
    constructor
    · rintro rfl
      exact isShort.eq (by simp [encoded])
    · rintro rfl
      simpa using congrArg List.getLast? (encoded.symm.trans isShort.encoded)

theorem flatMap_isSuffix_iff {ending : List Char} (short : ∀ c ∈ ending, ∃ octet, IsShort c octet)
    {text : List Char} : ending.flatMap String.utf8EncodeChar <:+ text.flatMap String.utf8EncodeChar ↔
      ending <:+ text := by
  constructor
  · intro h
    induction ending using List.reverseRecOn generalizing text with
    | nil => exact List.nil_suffix
    | append_singleton ending c ih =>
        obtain ⟨octet, isShort⟩ := short c (by simp)
        rw [List.flatMap_append, List.flatMap_singleton, isShort.encoded] at h
        obtain ⟨before, whole⟩ := h
        rw [← List.append_assoc] at whole
        have ends : (text.flatMap String.utf8EncodeChar).getLast? = some octet := by
          rw [← whole, List.getLast?_concat]
        obtain ⟨front, rfl⟩ := List.getLast?_eq_some_iff.mp (isShort.getLast?_eq_iff.mp ends)
        rw [List.flatMap_append, List.flatMap_singleton, isShort.encoded] at whole
        obtain ⟨first, rfl⟩ := ih (fun d member => short d (by simp [member]))
          ⟨before, List.append_cancel_right whole⟩
        exact ⟨first, (List.append_assoc ..).symm⟩
  · rintro ⟨before, rfl⟩
    exact ⟨before.flatMap String.utf8EncodeChar, List.flatMap_append.symm⟩

end Text

namespace RawText

theorem octets_ofText (text : String) :
    (ofText text).octets = text.toList.flatMap String.utf8EncodeChar := rfl

theorem toByteArray_ofText (text : String) :
    (ofText text).octets.toByteArray = toOctets text.toList := by
  rw [toOctets, String.ofList_toList, String.toUTF8_eq_toByteArray, ← String.utf8Encode_toList]
  rfl

@[simp] theorem text?_ofText (text : String) : (ofText text).text? = some text.toList := by
  rw [RawText.text?, toByteArray_ofText, ofOctets?_toOctets]

theorem ofText_injective : Function.Injective ofText := by
  intro text other same
  have read := congrArg RawText.text? same
  rw [text?_ofText, text?_ofText, Option.some.injEq] at read
  exact String.toList_inj.mp read

@[simp] theorem ofText_inj {text other : String} : ofText text = ofText other ↔ text = other :=
  ofText_injective.eq_iff

theorem ofText_of_text? {raw : RawText} {text : List Char} (h : raw.text? = some text) :
    ofText (String.ofList text) = raw := by
  rw [RawText.text?, ofOctets?] at h
  obtain ⟨read, decoded, rfl⟩ := Option.map_eq_some_iff.mp h
  rw [String.fromUTF8?] at decoded
  split at decoded
  · next valid =>
      obtain rfl := Option.some.inj decoded
      rw [String.ofList_toList]
      have same := toByteArray_ofText (String.fromUTF8 raw.octets.toByteArray valid)
      rw [toOctets, String.ofList_toList] at same
      exact congrArg RawText.mk (List.toByteArray_inj.mp same)
  · cases decoded

theorem shownFrom_behind (before : ByteArray) (text : List Char) :
    shownFrom (before ++ text.utf8Encode) before.size = text := by
  induction text generalizing before with
  | nil => simp [shownFrom]
  | cons c text ih =>
      obtain ⟨inside, decoded, whole, width⟩ := utf8DecodeChar?_behind before c text
      have rest := ih (before ++ [c].utf8Encode)
      rw [← whole, width] at rest
      rw [shownFrom, if_pos inside, decoded]
      exact congrArg (c :: ·) rest

@[simp] theorem shown_ofText (text : String) : (ofText text).shown = text := by
  have shown := shownFrom_behind .empty text.toList
  rw [ByteArray.empty_append] at shown
  rw [RawText.shown, toByteArray_ofText, toOctets, String.ofList_toList, String.toUTF8_eq_toByteArray,
    ← String.utf8Encode_toList, ← ByteArray.size_empty, shown, String.ofList_toList]

instance : LinearOrder RawText where
  lt raw other := raw < other
  le raw other := raw.octets ≤ other.octets
  le_refl raw := Std.le_refl raw.octets
  le_trans _ _ _ first second := Std.le_trans first second
  le_antisymm _ _ first second := congrArg RawText.mk (Std.le_antisymm first second)
  le_total raw other := Std.le_total (a := raw.octets) (b := other.octets)
  lt_iff_le_not_ge raw other := Std.lt_iff_le_and_not_ge (a := raw.octets) (b := other.octets)
  toDecidableLE raw other := inferInstanceAs (Decidable (raw.octets ≤ other.octets))

end RawText

/-! ## Paths -/

namespace RawPath

theorem isShort_slash : IsShort '/' slash := ⟨rfl, by decide⟩

variable (path : String)

theorem isAbsolute_ofText : isAbsolute path = Path.isAbsolute path := by
  rw [Bool.eq_iff_iff, isAbsolute, Path.isAbsolute, beq_iff_eq, beq_iff_eq]
  exact isShort_slash.head?_eq_iff

theorem endsInSlash_ofText : endsInSlash path = Path.endsInSlash path := by
  rw [Bool.eq_iff_iff, endsInSlash, Path.endsInSlash, beq_iff_eq, beq_iff_eq]
  exact isShort_slash.getLast?_eq_iff

theorem parts_ofText : parts path = (Path.parts path).map RawText.ofText := by
  have kept : (fun part : List Char => !(part.flatMap String.utf8EncodeChar).isEmpty) =
      fun part => !part.isEmpty := by
    funext part
    rw [Bool.eq_iff_iff]
    simp only [Bool.not_eq_true', List.isEmpty_eq_false_iff, ne_eq, flatMap_utf8EncodeChar_eq_nil]
  have raw : RawText.mk ∘ (·.flatMap String.utf8EncodeChar) = RawText.ofText ∘ String.ofList := by
    funext part
    simp [RawText.ofText]
  unfold parts Path.parts
  rw [RawText.octets_ofText, isShort_slash.splitOn, List.filter_map, List.map_map, List.map_map, raw]
  exact congrArg _ (congrArg (List.filter · _) kept)

theorem getLast?_parts_ofText :
    (parts path).getLast? = (Path.parts path).getLast?.map RawText.ofText := by
  rw [parts_ofText, List.getLast?_map]

end RawPath

end SymbolCorpus
