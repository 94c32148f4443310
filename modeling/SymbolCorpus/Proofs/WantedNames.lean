import SymbolCorpus.Proofs.GreedyChoice
import SymbolCorpus.Proofs.Reextraction

/-! # Wanted names

A filter tests names as they are written. A signature that passes is kept as its method name, and that
is not tested again. So a name map, and with it the records of an extraction, can hold unwanted names,
and exactly those that are the method names of signatures: `ns::sub_401000(int)` passes and is kept as
`sub_401000`.
-/

namespace SymbolCorpus

/-- The name says something, and is neither made up nor mangled. -/
def Blocklist.Wants (blocklist : Blocklist) (name : String) : Prop :=
  blocklist.isMeaningful name.toList = true ∧ isRequiredName name.toList = true

instance (blocklist : Blocklist) (name : String) : Decidable (blocklist.Wants name) :=
  inferInstanceAs (Decidable (_ ∧ _))

namespace NameFilter

variable {filter : NameFilter} {written kept : String}

/-- Names are reduced to method names, and this one is a signature. -/
def Reduces (filter : NameFilter) (written : String) : Prop :=
  filter.methodNames = true ∧ isSignature written.toList = true

/-- How a name that passes a filter is kept: as it is written, or a signature as its method name when
    these are asked for. -/
inductive KeepsAs (filter : NameFilter) (written : String) : String → Prop where
  | written : filter.keeps written.toList = true → ¬filter.Reduces written →
      KeepsAs filter written written
  | method {kept : String} : filter.keeps written.toList = true → filter.Reduces written →
      methodName? written.toList = some kept.toList → KeepsAs filter written kept

theorem KeepsAs.keeps (h : filter.KeepsAs written kept) : filter.keeps written.toList = true := by
  cases h with
  | written keeps _ => exact keeps
  | method keeps _ _ => exact keeps

theorem keptForm?_of_reduces (keeps : filter.keeps written.toList = true)
    (reduces : filter.Reduces written) :
    filter.keptForm? written.toList = methodName? written.toList := by
  simp [keptForm?, keeps, reduces.1, reduces.2]

theorem keptForm?_of_not_reduces (keeps : filter.keeps written.toList = true)
    (whole : ¬filter.Reduces written) : filter.keptForm? written.toList = some written.toList := by
  have signature : (filter.methodNames && isSignature written.toList) = false := by
    rw [← Bool.not_eq_true, Bool.and_eq_true_iff]
    exact whole
  simp [keptForm?, keeps, signature]

theorem keptForm?_eq_some_iff :
    filter.keptForm? written.toList = some kept.toList ↔ filter.KeepsAs written kept := by
  constructor
  · intro form
    have keeps : filter.keeps written.toList = true := by
      cases dropped : filter.keeps written.toList with
      | false => simp [keptForm?, dropped] at form
      | true => rfl
    by_cases reduces : filter.Reduces written
    · exact .method keeps reduces (keptForm?_of_reduces keeps reduces ▸ form)
    · rw [keptForm?_of_not_reduces keeps reduces, Option.some.injEq, String.toList_inj] at form
      exact form ▸ .written keeps reduces
  · intro h
    cases h with
    | written keeps whole => exact keptForm?_of_not_reduces keeps whole
    | method keeps reduces method => exact (keptForm?_of_reduces keeps reduces).trans method

end NameFilter

namespace NameMap

variable {filter : NameFilter} {entries : List (String × Address)} {first : Address}
  {written kept : String}

/-- The entry that decides the name at an address: it is kept as this name, and no entry behind it is
    kept at the address. -/
structure Decides (filter : NameFilter) (entries : List (String × Address)) (first : Address)
    (written kept : String) : Prop where
  last : ∃ before after, entries = before ++ (written, first) :: after ∧
    ∀ later ∈ after, later.2 = first → ∀ name, ¬filter.KeepsAs later.1 name
  kept : filter.KeepsAs written kept

theorem find?_nil (filter : NameFilter) (first : Address) :
    (ofEntries filter []).find? first = none := by
  rw [find?_ofEntries]
  rfl

theorem find?_cons (entry : String × Address) :
    (ofEntries filter (entry :: entries)).find? first = ((ofEntries filter entries).find? first).or
      (if entry.2 = first then (filter.keptForm? entry.1.toList).map String.ofList else none) := by
  obtain ⟨name, begin⟩ := entry
  simp only [find?_ofEntries, keptEntries, List.filterMap_cons]
  cases filter.keptForm? name.toList with
  | none => simp
  | some form => simp [lastGiven?]

theorem kept_here_iff {name : String} :
    (filter.keptForm? written.toList).map String.ofList = some name ↔
      filter.KeepsAs written name := by
  rw [← NameFilter.keptForm?_eq_some_iff, Option.map_eq_some_iff]
  constructor
  · rintro ⟨form, same, rfl⟩
    rwa [String.toList_ofList]
  · intro same
    exact ⟨name.toList, same, String.ofList_toList⟩

theorem find?_eq_none_iff :
    (ofEntries filter entries).find? first = none ↔
      ∀ entry ∈ entries, entry.2 = first → ∀ name, ¬filter.KeepsAs entry.1 name := by
  induction entries with
  | nil => simp [find?_nil]
  | cons entry entries ih =>
      rw [find?_cons, Option.or_eq_none_iff, ih, List.forall_mem_cons, and_comm]
      refine and_congr_left fun _ => ?_
      by_cases here : entry.2 = first
      · simp only [here, if_true, true_imp_iff]
        rw [Option.eq_none_iff_forall_ne_some]
        exact forall_congr' fun name => not_congr kept_here_iff
      · simp [here]

/-- The name at an address is that of the last entry that is kept there. -/
theorem find?_eq_some_iff {name : String} :
    (ofEntries filter entries).find? first = some name ↔
      ∃ written, Decides filter entries first written name := by
  induction entries with
  | nil =>
      rw [find?_nil]
      refine ⟨nofun, ?_⟩
      rintro ⟨written, ⟨before, after, impossible, -⟩, -⟩
      simp at impossible
  | cons entry entries ih =>
      rw [find?_cons, Option.or_eq_some_iff]
      constructor
      · rintro (later | ⟨none, here⟩)
        · obtain ⟨written, ⟨before, after, rfl, last⟩, kept⟩ := ih.mp later
          exact ⟨written, ⟨entry :: before, after, rfl, last⟩, kept⟩
        · obtain ⟨same, form⟩ := Option.ite_none_right_eq_some.mp here
          subst same
          exact ⟨entry.1, ⟨[], entries, rfl, find?_eq_none_iff.mp none⟩, kept_here_iff.mp form⟩
      · rintro ⟨written, ⟨before, after, whole, last⟩, kept⟩
        cases before with
        | nil =>
            cases whole
            refine .inr ⟨find?_eq_none_iff.mpr last, ?_⟩
            rw [if_pos rfl]
            exact kept_here_iff.mpr kept
        | cons other before =>
            cases whole
            exact .inl (ih.mpr ⟨written, ⟨before, after, rfl, last⟩, kept⟩)

end NameMap

theorem find?_of_selected {context : ExtractionContext} {functions : List DumpFunction} {key : String}
    {record : Record} (h : (selectRecords context functions)[key]? = some record) :
    context.names.find? record.start = some record.name := by
  obtain ⟨function, records⟩ := exists_function_of_selected h
  rw [records.start]
  exact records.name

/-- Each name of a filtered map is that of the last entry kept at its address, and the entry's own
    spelling is wanted. All names of the map are wanted exactly when those are that take the place of
    signatures. The records of an extraction take their names from the map. -/
theorem Disk.loadNameMap_wanted_iff {disk : Disk} {blocklist : Blocklist} {methodNames : Bool}
    {path : String} {names : NameMap}
    (h : disk.loadNameMap ⟨some blocklist, methodNames⟩ path = .ok names) :
    ∃ text entries, disk.readText path = .ok text ∧
      (Json.read text).bind NameMap.entries? = some entries ∧
      (∀ first name, names.find? first = some name ↔
        ∃ written, NameMap.Decides ⟨some blocklist, methodNames⟩ entries first written name) ∧
      (∀ first written name, NameMap.Decides ⟨some blocklist, methodNames⟩ entries first written name →
        blocklist.Wants written) ∧
      ((∀ first name, names.find? first = some name → blocklist.Wants name) ↔
        ∀ first written name,
          NameMap.Decides ⟨some blocklist, methodNames⟩ entries first written name →
          NameFilter.Reduces ⟨some blocklist, methodNames⟩ written → blocklist.Wants name) ∧
      ∀ (extractor : Extractor) textSection dump (key : String) (record : Record),
        (extractor.select names textSection dump)[key]? = some record →
        names.find? record.start = some record.name := by
  obtain ⟨text, entries, read, entered, rfl⟩ := Disk.exists_entries_of_loadNameMap h
  have spelled (first : Address) (written name : String)
      (decides : NameMap.Decides ⟨some blocklist, methodNames⟩ entries first written name) :
      blocklist.Wants written :=
    Bool.and_eq_true_iff.mp decides.kept.keeps
  refine ⟨text, entries, read, entered, fun _ _ => NameMap.find?_eq_some_iff, spelled, ?_,
    fun _ _ _ _ _ => find?_of_selected⟩
  constructor
  · intro wanted first written name decides _
    exact wanted first name (NameMap.find?_eq_some_iff.mpr ⟨written, decides⟩)
  · intro reduced first name found
    obtain ⟨written, decides⟩ := NameMap.find?_eq_some_iff.mp found
    cases decides.kept with
    | written _ _ => exact spelled first name name decides
    | method _ reduces _ => exact reduced first written name decides reduces

/-- A disk with a name map of two signatures, of a made-up name and of a listed one. -/
def scopedNamesDisk : Disk :=
  .ofBinary "prog"
    "\x7b\"ns::sub_401000(int)\":[4096,4200],\"ns::nullsub_3(int)\":[5000,5100]\x7d" ""

/-- Both method names are in the map and unwanted, though what is written is wanted. -/
theorem unwanted_scopedNames :
    ∃ names entries written,
      scopedNamesDisk.loadNameMap ⟨some ⟨["nullsub".toList]⟩, true⟩ "prog.name_and_addr" = .ok names ∧
      names.find? 4096 = some "sub_401000" ∧ names.find? 5000 = some "nullsub_3" ∧
      NameMap.Decides ⟨some ⟨["nullsub".toList]⟩, true⟩ entries 4096 written "sub_401000" ∧
      Blocklist.Wants ⟨["nullsub".toList]⟩ written ∧
      ¬Blocklist.Wants ⟨["nullsub".toList]⟩ "sub_401000" ∧
      ¬Blocklist.Wants ⟨["nullsub".toList]⟩ "nullsub_3" := by
  have found : (scopedNamesDisk.loadNameMap ⟨some ⟨["nullsub".toList]⟩, true⟩
      "prog.name_and_addr").toOption.map (fun names => (names.find? 4096, names.find? 5000)) =
      some (some "sub_401000", some "nullsub_3") := by
    decide +kernel
  obtain ⟨names, loaded, shown⟩ := Option.map_eq_some_iff.mp found
  obtain ⟨madeUp, listed⟩ := Prod.mk.inj shown
  have run := eq_ok_of_toOption loaded
  obtain ⟨_, entries, -, -, origin, spelled, -⟩ := Disk.loadNameMap_wanted_iff run
  obtain ⟨written, decides⟩ := (origin 4096 "sub_401000").mp madeUp
  exact ⟨names, entries, written, run, madeUp, listed, decides, spelled _ _ _ decides, by decide,
    by decide⟩

end SymbolCorpus
