import Mathlib.Data.List.Dedup
import Mathlib.Data.List.Forall2
import SymbolCorpus.Corpus.Record
import SymbolCorpus.Name.NameMap

/-! # Maps made of lists

Symbol tables, name maps and the records of a binary are made of lists in which a
key may be given more than once. In all of them the value given last is the one
that is found, so two of them agree when their lists correspond entry by entry.
-/

namespace SymbolCorpus

theorem exists_of_mem_forall₂ {α β : Type} {Alike : α → β → Prop} {values : List α}
    {values' : List β} (h : List.Forall₂ Alike values values') {value : α} (member : value ∈ values) :
    ∃ value' ∈ values', Alike value value' := by
  induction h with
  | nil => cases member
  | cons here _ ih =>
      rcases List.mem_cons.mp member with rfl | later
      · exact ⟨_, List.mem_cons_self, here⟩
      · obtain ⟨value', found, alike⟩ := ih later
        exact ⟨value', List.mem_cons_of_mem _ found, alike⟩

/-! ## The value given last -/

section

variable {κ α : Type} [DecidableEq κ]

/-- The value given last for a key. -/
def lastGiven? (key : κ) : List (κ × α) → Option α
  | [] => none
  | (other, value) :: rest => (lastGiven? key rest).or (if other = key then some value else none)

theorem mem_of_lastGiven? {key : κ} {value : α} {pairs : List (κ × α)}
    (h : lastGiven? key pairs = some value) : (key, value) ∈ pairs := by
  induction pairs with
  | nil => cases h
  | cons pair rest ih =>
      rw [lastGiven?, Option.or_eq_some_iff] at h
      rcases h with later | ⟨-, here⟩
      · exact List.mem_cons_of_mem pair (ih later)
      · split at here
        · next same =>
            cases same
            cases here
            exact List.mem_cons_self
        · cases here

theorem isSome_lastGiven? (key : κ) (pairs : List (κ × α)) :
    (lastGiven? key pairs).isSome = true ↔ key ∈ pairs.map Prod.fst := by
  induction pairs with
  | nil => simp [lastGiven?]
  | cons pair rest ih =>
      rw [lastGiven?, Option.isSome_or, Bool.or_eq_true, ih, List.map_cons, List.mem_cons]
      by_cases here : pair.1 = key
      · simp [here]
      · simp [here, Ne.symm here]

theorem lastGiven?_of_mem {key : κ} {value : α} {pairs : List (κ × α)}
    (distinct : (pairs.map Prod.fst).Nodup) (member : (key, value) ∈ pairs) :
    lastGiven? key pairs = some value := by
  induction pairs with
  | nil => cases member
  | cons pair rest ih =>
      rw [List.map_cons, List.nodup_cons] at distinct
      rw [lastGiven?]
      rcases List.mem_cons.mp member with rfl | later
      · have absent : lastGiven? key rest = none := by
          cases found : lastGiven? key rest with
          | none => rfl
          | some other =>
              exact absurd (List.mem_map.mpr ⟨_, mem_of_lastGiven? found, rfl⟩) distinct.1
        rw [absent, if_pos rfl, Option.none_or]
      · rw [ih distinct.2 later, Option.some_or]

/-- When no key is repeated, the order of a list does not matter. -/
theorem lastGiven?_perm {pairs pairs' : List (κ × α)} (perm : pairs.Perm pairs')
    (distinct : (pairs.map Prod.fst).Nodup) (key : κ) :
    lastGiven? key pairs = lastGiven? key pairs' := by
  have distinct' : (pairs'.map Prod.fst).Nodup := (perm.map Prod.fst).nodup_iff.mp distinct
  cases found : lastGiven? key pairs with
  | some value =>
      have member := perm.mem_iff.mp (mem_of_lastGiven? found)
      exact (lastGiven?_of_mem distinct' member).symm
  | none =>
      cases found' : lastGiven? key pairs' with
      | none => rfl
      | some value =>
          have member := perm.mem_iff.mpr (mem_of_lastGiven? found')
          rw [lastGiven?_of_mem distinct member] at found
          cases found

theorem lastGiven?_filter (keep : κ → Bool) (key : κ) (pairs : List (κ × α)) :
    lastGiven? key (pairs.filter (keep ·.1)) = if keep key then lastGiven? key pairs else none := by
  induction pairs with
  | nil => simp [lastGiven?]
  | cons pair rest ih =>
      obtain ⟨other, value⟩ := pair
      by_cases here : other = key
      · subst here
        by_cases kept : keep other = true
        · simp [kept, lastGiven?, ih]
        · simp [kept, ih]
      · by_cases kept : keep other = true
        · simp [kept, lastGiven?, ih, here]
        · simp [kept, lastGiven?, ih, here]

/-- Lists that correspond entry by entry give corresponding values for corresponding keys. -/
theorem lastGiven?_rel {κ' β : Type} [DecidableEq κ'] {Same : κ → κ' → Prop} {Alike : α → β → Prop}
    {key : κ} {key' : κ'} {pairs : List (κ × α)} {pairs' : List (κ' × β)}
    (agree : ∀ other other', Same other other' → (other = key ↔ other' = key'))
    (h : List.Forall₂ (fun pair pair' => Same pair.1 pair'.1 ∧ Alike pair.2 pair'.2) pairs pairs') :
    Option.Rel Alike (lastGiven? key pairs) (lastGiven? key' pairs') := by
  induction h with
  | nil => exact .none
  | cons here _ ih =>
      obtain ⟨same, alike⟩ := here
      unfold lastGiven?
      generalize lastGiven? key _ = later at ih
      generalize lastGiven? key' _ = later' at ih
      cases ih with
      | some alike => exact .some alike
      | none =>
          simp only [Option.none_or, agree _ _ same]
          split
          · exact .some alike
          · exact .none

theorem lastGiven?_congr {κ' : Type} [DecidableEq κ'] {Same : κ → κ' → Prop} {key : κ} {key' : κ'}
    {pairs : List (κ × α)} {pairs' : List (κ' × α)}
    (agree : ∀ other other', Same other other' → (other = key ↔ other' = key'))
    (h : List.Forall₂ (fun pair pair' => Same pair.1 pair'.1 ∧ pair.2 = pair'.2) pairs pairs') :
    lastGiven? key pairs = lastGiven? key' pairs' := by
  have alike := lastGiven?_rel agree h
  generalize lastGiven? key pairs = value at alike
  generalize lastGiven? key' pairs' = value' at alike
  cases alike with
  | some same => exact congrArg some same
  | none => rfl

end

/-! ## Symbol tables -/

theorem getElem?_insertMany_hash {κ α : Type} [DecidableEq κ] [BEq κ] [LawfulBEq κ] [Hashable κ]
    (table : Std.HashMap κ α) (pairs : List (κ × α)) (key : κ) :
    (table.insertMany pairs)[key]? = (lastGiven? key pairs).or table[key]? := by
  induction pairs generalizing table with
  | nil => simp [lastGiven?]
  | cons pair rest ih =>
      rw [Std.HashMap.insertMany_cons, ih, Std.HashMap.getElem?_insert, lastGiven?, Option.or_assoc]
      by_cases here : pair.1 = key <;> simp [here]

theorem SymbolTable.find?_ofList (symbols : List (Address × String)) (address : Address) :
    (SymbolTable.ofList symbols).find? address = lastGiven? address symbols := by
  unfold SymbolTable.find? SymbolTable.ofList
  rw [Std.HashMap.ofList_eq_insertMany_empty, getElem?_insertMany_hash]
  simp

/-! ## Ordered maps -/

section

variable {κ α : Type} [Ord κ] [Std.TransOrd κ] [Std.LawfulEqOrd κ] [DecidableEq κ]

theorem getElem?_insertMany (map : Std.TreeMap κ α) (pairs : List (κ × α)) (key : κ) :
    (map.insertMany pairs)[key]? = (lastGiven? key pairs).or map[key]? := by
  induction pairs generalizing map with
  | nil => simp [lastGiven?]
  | cons pair rest ih =>
      rw [Std.TreeMap.insertMany_cons, ih, Std.TreeMap.getElem?_insert, lastGiven?, Option.or_assoc]
      by_cases here : pair.1 = key <;> simp [here]

theorem getElem?_ofList (pairs : List (κ × α)) (key : κ) :
    (Std.TreeMap.ofList pairs)[key]? = lastGiven? key pairs := by
  rw [Std.TreeMap.ofList_eq_insertMany_empty, getElem?_insertMany]
  simp

theorem toList_ofList_perm {pairs pairs' : List (κ × α)} (perm : pairs.Perm pairs')
    (distinct : (pairs.map Prod.fst).Nodup) :
    (Std.TreeMap.ofList pairs).toList = (Std.TreeMap.ofList pairs').toList := by
  apply Std.TreeMap.Equiv.toList_eq
  apply Std.TreeMap.Equiv.of_forall_constGet?_eq
  intro key
  rw [getElem?_ofList, getElem?_ofList, lastGiven?_perm perm distinct]

end

/-! ## Records -/

namespace RecordMap

theorem getElem?_ofPairs (pairs : List (String × Record)) (key : String) :
    (ofPairs pairs)[key]? = lastGiven? key pairs :=
  getElem?_ofList pairs key

section

variable {map : RecordMap} {pairs : List (String × Record)}

theorem nodup_keys_toList (map : RecordMap) : (map.toList.map Prod.fst).Nodup := by
  rw [Std.TreeMap.map_fst_toList_eq_keys]
  exact Std.TreeMap.nodup_keys

theorem toList_perm_iff (h : ∀ key, map[key]? = lastGiven? key pairs) :
    map.toList.Perm pairs ↔ (pairs.map Prod.fst).Nodup := by
  constructor
  · intro perm
    exact (perm.map Prod.fst).nodup_iff.mp (nodup_keys_toList map)
  · intro distinct
    rw [List.perm_ext_iff_of_nodup (List.Nodup.of_map Prod.fst (nodup_keys_toList map))
      (List.Nodup.of_map Prod.fst distinct)]
    rintro ⟨key, record⟩
    rw [Std.TreeMap.mem_toList_iff_getElem?_eq_some, h]
    exact ⟨mem_of_lastGiven?, lastGiven?_of_mem distinct⟩

theorem size_eq (h : ∀ key, map[key]? = lastGiven? key pairs) :
    map.size = (pairs.map Prod.fst).dedup.length := by
  have keys : map.keys.Perm (pairs.map Prod.fst).dedup := by
    rw [List.perm_ext_iff_of_nodup Std.TreeMap.nodup_keys (List.nodup_dedup _)]
    intro key
    rw [Std.TreeMap.mem_keys, Std.TreeMap.mem_iff_isSome_getElem?, h, isSome_lastGiven?,
      List.mem_dedup]
  rw [← keys.length_eq, Std.TreeMap.length_keys]

end

end RecordMap

/-! ## Name maps -/

namespace NameMap

/-- The first addresses of entries with the names in the form in which they are kept. -/
def keptEntries (filter : NameFilter) (entries : List (String × Address)) : List (Address × String) :=
  entries.filterMap fun (name, first) =>
    (filter.keptForm? name.toList).map fun kept => (first, String.ofList kept)

theorem find?_ofEntries (filter : NameFilter) (entries : List (String × Address)) (first : Address) :
    (ofEntries filter entries).find? first = lastGiven? first (keptEntries filter entries) := by
  have start : lastGiven? first (keptEntries filter entries) =
      (lastGiven? first (keptEntries filter entries)).or (find? ∅ first) := by
    simp [find?]
  rw [start, ofEntries]
  clear start
  generalize (∅ : NameMap) = names
  induction entries generalizing names with
  | nil => simp [keptEntries, lastGiven?]
  | cons entry rest ih =>
      obtain ⟨name, begin⟩ := entry
      rw [List.foldl_cons, ih]
      cases shown : filter.keptForm? name.toList with
      | none => simp [keptEntries, shown]
      | some kept =>
          have inserted : find? (names.insert begin (String.ofList kept)) first =
              if begin = first then some (String.ofList kept) else find? names first := by
            simp [find?, Std.TreeMap.getElem?_insert]
          simp only [keptEntries, List.filterMap_cons, shown, Option.map_some, lastGiven?,
            Option.or_assoc, inserted]
          by_cases here : begin = first <;> simp [here]

end NameMap

end SymbolCorpus
