import SymbolCorpus.Json.Fields
import SymbolCorpus.Proofs.WrittenDocuments

/-! # Fields are taken out as they were put in

What the readers of scalars, lists and records make of the documents that were built from such values.
A record may leave fields out: then its document has some of its fields, in their order.
-/

namespace SymbolCorpus.Json

/-! ## Documents of values -/

@[simp] theorem plain_null : Plain .null := .null

@[simp] theorem plain_bool (value : Bool) : Plain (.bool value) := .bool value

@[simp] theorem plain_text (value : String) : (text value).Plain := .string value.toList

@[simp] theorem plain_ofInt (value : Int) : (ofInt value).Plain := .integer _ _

@[simp] theorem plain_ofNat (value : Nat) : (ofNat value).Plain := .integer _ _

section

variable {α : Type} {encode : α → Json}

@[simp] theorem plain_ofOption {value : Option α} :
    (ofOption encode value).Plain ↔ ∀ present ∈ value, (encode present).Plain := by
  cases value <;> simp [ofOption]

@[simp] theorem plain_ofList {values : List α} :
    (ofList encode values).Plain ↔ ∀ value ∈ values, (encode value).Plain := by
  constructor
  · rintro ⟨⟩
    next each => exact List.forall_mem_map.mp each
  · exact fun each => .array (List.forall_mem_map.mpr each)

end

@[simp] theorem plain_ofFields {fields : List (String × Json)} :
    (ofFields fields).Plain ↔ ∀ field ∈ fields, field.2.Plain := by
  constructor
  · rintro ⟨⟩
    next each => exact fun field member => each _ (List.mem_map_of_mem member)
  · intro each
    refine .object (fun field member => ?_) (fun field member => ?_)
    all_goals obtain ⟨given, here, rfl⟩ := List.mem_map.mp member
    · rfl
    · exact each given here

/-! ## Scalars -/

@[simp] theorem asText?_text (value : String) : asText? (text value) = some value := by
  simp [asText?, text]

@[simp] theorem asUInt64?_ofNat (value : UInt64) : asUInt64? (ofNat value.toNat) = some value := by
  simp [asUInt64?, ofNat, Integer.toUInt64?, value.toNat_lt_size]

theorem signed_natAbs (value : Int) : Integer.signed (decide (value < 0)) value.natAbs = value := by
  by_cases negative : value < 0
  · rw [Integer.signed, decide_eq_true negative, if_pos rfl]
    omega
  · rw [Integer.signed, decide_eq_false negative, if_neg Bool.false_ne_true]
    omega

@[simp] theorem asInt64?_ofInt (value : Int64) : asInt64? (ofInt value.toInt) = some value := by
  have notMinusZero : ¬ (decide (value.toInt < 0) && value.toInt.natAbs == 0) = true := by
    simp only [Bool.and_eq_true, decide_eq_true_eq, beq_iff_eq]
    omega
  rw [ofInt, asInt64?, if_neg notMinusZero, signed_natAbs, Integer.toInt64?,
    if_pos ⟨value.minValue_le_toInt, value.toInt_le⟩, value.ofInt_toInt]

@[simp] theorem asNamed?_text {α : Type} (ofName? : String → Option α) (name : String) :
    asNamed? ofName? (text name) = ofName? name := by
  simp [asNamed?, text]

/-! ## Options and lists -/

theorem mapM_map {α β : Type} {decode : β → Option α} {encode : α → β}
    (decoded : ∀ value, decode (encode value) = some value) (values : List α) :
    (values.map encode).mapM decode = some values := by
  induction values with
  | nil => rfl
  | cons value values ih => simp [decoded, ih]

section

variable {α : Type} {decode : Json → Option α} {encode : α → Json}
  (decoded : ∀ value, decode (encode value) = some value)

include decoded

theorem asList?_ofList (values : List α) : asList? decode (ofList encode values) = some values :=
  mapM_map decoded values

theorem asOption?_encode (notNull : decode .null = none) (value : α) :
    asOption? decode (encode value) = some (some value) := by
  have present := decoded value
  unfold asOption?
  split
  · next null =>
      rw [null, notNull] at present
      cases present
  · rw [present, Option.map_some]

theorem asOption?_ofOption (notNull : decode .null = none) (value : Option α) :
    asOption? decode (ofOption encode value) = some value := by
  cases value with
  | none => rfl
  | some value => exact asOption?_encode decoded notNull value

end

/-! ## Records -/

theorem asObject?_ofFields (fields : List (String × Json)) :
    asObject? (ofFields fields) = some fields := by
  let key (field : Option (List Char) × Json) : Option (String × Json) :=
    field.1.map fun name => (String.ofList name, field.2)
  have named (field : String × Json) : key (some field.1.toList, field.2) = some field := by
    simp [key]
  exact mapM_map named fields

theorem namesDiffer_of_nodup {fields : List (String × Json)}
    (distinct : (fields.map Prod.fst).Nodup) : namesDiffer fields = true := by
  induction fields with
  | nil => rfl
  | cons field fields ih =>
      rw [List.map_cons, List.nodup_cons, List.mem_map] at distinct
      simp only [namesDiffer, ih distinct.2, Bool.and_true, Bool.not_eq_true', List.any_eq_false,
        beq_iff_eq]
      exact fun other member same => distinct.1 ⟨other, member, same⟩

/-- Fields that a record knows are all found, whichever of them are there. -/
theorem asRecord?_ofFields {names : List String} {fields : List (String × Json)}
    (distinct : names.Nodup) (known : (fields.map Prod.fst).Sublist names) :
    (ofFields fields).asRecord? names = some ⟨false, fields⟩ := by
  have kept : fields.filter (fun field => names.contains field.1) = fields := by
    rw [List.filter_eq_self]
    exact fun field member => List.contains_iff_mem.mpr (known.subset (List.mem_map_of_mem member))
  have differ := namesDiffer_of_nodup (known.nodup distinct)
  change (asObject? (ofFields fields) >>= fun fields => _) = _
  rw [asObject?_ofFields]
  change (if namesDiffer (fields.filter fun field => names.contains field.1) then _ else _) = _
  rw [kept, if_pos differ]

/-- The fields of a record that have a value. -/
def present (entries : List (String × Option Json)) : List (String × Json) :=
  entries.filterMap fun (name, value) => value.map (name, ·)

theorem map_fst_present_sublist (entries : List (String × Option Json)) :
    ((present entries).map Prod.fst).Sublist (entries.map Prod.fst) := by
  induction entries with
  | nil => exact .slnil
  | cons entry entries ih =>
      obtain ⟨name, _ | value⟩ := entry
      · exact ih.cons name
      · exact ih.cons_cons name

theorem plain_present {entries : List (String × Option Json)}
    (each : ∀ entry ∈ entries, ∀ value ∈ entry.2, value.Plain) : (ofFields (present entries)).Plain := by
  rw [plain_ofFields]
  intro field member
  obtain ⟨⟨name, value⟩, given, here⟩ := List.mem_filterMap.mp member
  obtain ⟨value, some, rfl⟩ := Option.map_eq_some_iff.mp here
  exact each _ given value some

theorem asRecord?_present {entries : List (String × Option Json)}
    (distinct : (entries.map Prod.fst).Nodup) :
    (ofFields (present entries)).asRecord? (entries.map Prod.fst) = some ⟨false, present entries⟩ :=
  asRecord?_ofFields distinct (map_fst_present_sublist entries)

namespace Fields

theorem value?_present {entries : List (String × Option Json)}
    (distinct : (entries.map Prod.fst).Nodup) (name : String) :
    value? ⟨false, present entries⟩ name = (entries.find? (·.1 == name)).bind (·.2) := by
  induction entries with
  | nil => rfl
  | cons entry entries ih =>
      rw [List.map_cons, List.nodup_cons] at distinct
      obtain ⟨other, value⟩ := entry
      have later := ih distinct.2
      by_cases here : other = name
      · subst here
        cases value with
        | none =>
            -- The name is not given again, so an absent field is not found behind its place.
            have absent : entries.find? (·.1 == other) = none := by
              rw [List.find?_eq_none]
              intro entry member same
              exact distinct.1 (List.mem_map.mpr ⟨entry, member, eq_of_beq same⟩)
            rw [absent] at later
            simpa [value?, present] using later
        | some value => simp [value?, present]
      · cases value <;> simpa [value?, present, here] using later

theorem withDefault?_none {α : Type} {fields : Fields} {name : String} {decode : Json → Option α}
    {encode : α → Json} {value : Option α}
    (given : fields.value? name = value.map encode)
    (decoded : ∀ value, decode (encode value) = some value) (notNull : decode .null = none) :
    fields.withDefault? name none (asOption? decode) = some value := by
  rw [withDefault?, given]
  cases value with
  | none => rfl
  | some value => exact asOption?_encode decoded notNull value

end Fields

end SymbolCorpus.Json
