import Mathlib.Data.List.Induction
import Mathlib.Data.List.Perm.Subperm
import SymbolCorpus.Proofs.GreedyChoice
import SymbolCorpus.Proofs.MovedAddresses

/-! # Relocation

A binary may be loaded at another address. Then its sections, functions, symbols and
names are moved by one distance, and with them the values of its address tokens.
Extraction keeps the same functions in the same order, and their records differ in
the addresses of the functions only. The keys are texts, so the order of the entries
in the file is not part of this.
-/

namespace SymbolCorpus

/-! ## What is moved -/

/-- An entry of a name map keeps its name. -/
structure NameMap.MovedEntry (distance : Int) (entry other : String × Address) : Prop where
  name : other.1 = entry.1
  first : SymbolCorpus.Moved distance entry.2 other.2

structure DumpSymbol.Moved (distance : Int) (symbol other : DumpSymbol) : Prop where
  address : SymbolCorpus.Moved distance symbol.address other.address
  fullName : other.fullName = symbol.fullName

structure DumpFunction.Moved (distance : Int) (function other : DumpFunction) : Prop where
  range : AddressRange.Moved distance function.range other.range
  isSkipped : other.isSkipped = function.isSkipped
  streams : function.streams.Moved distance other.streams
  pseudoCode : other.pseudoCode = function.pseudoCode

structure Dump.Moved (distance : Int) (dump other : Dump) : Prop where
  textSection : Option.Rel (AddressRange.Moved distance) dump.textSection other.textSection
  symbols : List.Forall₂ (DumpSymbol.Moved distance) dump.symbols other.symbols
  functions : List.Forall₂ (DumpFunction.Moved distance) dump.functions other.functions

/-- The records of one function before and after the move: they tell its addresses, and all else in
    them is the same. -/
structure Record.Moved (distance : Int) (record other : Record) : Prop where
  start : SymbolCorpus.Moved distance record.start other.start
  address : ∃ range range', AddressRange.Moved distance range range' ∧
    record.address = range.key ∧ other.address = range'.key
  name : other.name = record.name
  instructions : other.instructions = record.instructions
  llils : other.llils = record.llils
  mlils : other.mlils = record.mlils
  pseudoCode : other.pseudoCode = record.pseudoCode

/-- The same names for the same first addresses, as far as these can be moved, and the same symbols. -/
structure ExtractionContext.Moved (distance : Int) (context other : ExtractionContext) : Prop where
  segmenter : other.segmenter = context.segmenter
  settings : other.settings = context.settings
  textSection : AddressRange.Moved distance context.textSection other.textSection
  names : ∀ first first', SymbolCorpus.Moved distance first first' →
    context.names.find? first = other.names.find? first'
  symbols : context.symbols.Moved distance other.symbols
  fullNames : context.fullNames.Moved distance other.fullNames

/-! ## One function -/

namespace ExtractionContext.Moved

variable {distance : Int} {context other : ExtractionContext} {function function' : DumpFunction}

theorem masked_eq (h : context.Moved distance other) {first first' : Address}
    (moved : SymbolCorpus.Moved distance first first') (name : String) (text : List Char) :
    context.masked first name text = other.masked first' name text := by
  unfold masked
  rw [h.fullNames.find? first first' moved]

theorem wants_iff (h : context.Moved distance other) (moved : function.Moved distance function') :
    context.Wants function ↔ other.Wants function' := by
  have enclosed := h.textSection.encloses_eq moved.range
  have named : function.range.first ∈ context.names ↔ function'.range.first ∈ other.names := by
    rw [Std.TreeMap.mem_iff_isSome_getElem?, Std.TreeMap.mem_iff_isSome_getElem?]
    exact Bool.eq_iff_iff.mp (congrArg Option.isSome (h.names _ _ moved.range.first))
  constructor
  · intro wants
    exact ⟨enclosed ▸ wants.enclosed, named.mp wants.named, moved.isSkipped ▸ wants.analysed,
      moved.pseudoCode ▸ wants.decompiled⟩
  · intro wants
    exact ⟨enclosed ▸ wants.enclosed, named.mpr wants.named, moved.isSkipped ▸ wants.analysed,
      moved.pseudoCode ▸ wants.decompiled⟩

theorem build?_rel (h : context.Moved distance other) (moved : function.Moved distance function')
    (name text : String) :
    Option.Rel (Record.Moved distance) (context.build? function name text)
      (other.build? function' name text) := by
  have surroundings : AddressContext.Moved distance
      ⟨function.range, context.textSection, context.symbols⟩
      ⟨function'.range, other.textSection, other.symbols⟩ :=
    ⟨moved.range, h.textSection, h.symbols⟩
  unfold build?
  dsimp only
  rw [h.segmenter, h.settings, ← h.masked_eq moved.range.first,
    ← FunctionStreams.abstracted_moved _ surroundings moved.streams]
  split
  · exact .none
  · exact .some ⟨moved.range.first, ⟨_, _, moved.range, rfl, rfl⟩, rfl, rfl, rfl, rfl, rfl⟩

theorem records_rel (h : context.Moved distance other) (moved : function.Moved distance function')
    {record record' : Record} (records : context.Records function record)
    (records' : other.Records function' record') : record.Moved distance record' := by
  have name : record.name = record'.name := by
    rw [← Option.some.injEq, ← records.name, ← records'.name]
    exact h.names _ _ moved.range.first
  obtain ⟨text, decompiled, built⟩ := records.built
  obtain ⟨text', decompiled', built'⟩ := records'.built
  obtain rfl : text = text' := by
    rw [← Option.some.injEq, ← decompiled, ← decompiled', moved.pseudoCode]
  have alike := h.build?_rel moved record.name text
  rw [built, name, built'] at alike
  cases alike with
  | some alike => exact alike

end ExtractionContext.Moved

/-! ## The scan -/

theorem exists_scanOrder_pairs {distance : Int} {functions functions' : List DumpFunction}
    (moved : List.Forall₂ (DumpFunction.Moved distance) functions functions') :
    ∃ pairs : List (DumpFunction × DumpFunction), pairs.Perm (functions.zip functions') ∧
      (∀ pair ∈ pairs, pair.1.Moved distance pair.2) ∧
      scanOrder functions = pairs.map Prod.fst ∧ scanOrder functions' = pairs.map Prod.snd := by
  obtain ⟨lengths, zipped⟩ := List.forall₂_iff_zip.mp moved
  have alike : ∀ pair ∈ functions.zip functions', pair.1.Moved distance pair.2 :=
    fun pair member => zipped member
  have firsts : (functions.zip functions').map Prod.fst = functions := List.map_fst_zip lengths.le
  have seconds : (functions.zip functions').map Prod.snd = functions' := List.map_snd_zip lengths.ge
  generalize functions.zip functions' = pairs at *
  have order : (pairs.mergeSort fun pair pair' => pair.1.range.precedes pair'.1.range).map Prod.fst =
      scanOrder (pairs.map Prod.fst) := List.map_mergeSort fun _ _ _ _ => rfl
  have order' : (pairs.mergeSort fun pair pair' => pair.1.range.precedes pair'.1.range).map Prod.snd =
      scanOrder (pairs.map Prod.snd) := by
    refine List.map_mergeSort fun pair member pair' member' => ?_
    have range := (alike pair member).range
    have range' := (alike pair' member').range
    simp only [AddressRange.precedes, range.first.lt_iff range'.first,
      range.first.eq_iff range'.first, range.last.le_iff range'.last]
  rw [firsts] at order
  rw [seconds] at order'
  exact ⟨_, List.mergeSort_perm _ _, fun pair member => alike pair (List.mem_mergeSort.mp member),
    order.symm, order'.symm⟩

/-- What is kept of functions is kept of their moved counterparts. -/
theorem Kept.of_moved {distance : Int} {wanted wanted' : DumpFunction → Prop}
    {pairs : List (DumpFunction × DumpFunction)} {kept : List DumpFunction}
    (alike : ∀ pair ∈ pairs, pair.1.Moved distance pair.2)
    (agree : ∀ pair ∈ pairs, wanted pair.1 ↔ wanted' pair.2)
    (h : Kept wanted (pairs.map Prod.fst) kept) :
    ∃ chosen : List (DumpFunction × DumpFunction), chosen.Sublist pairs ∧
      chosen.map Prod.fst = kept ∧ Kept wanted' (pairs.map Prod.snd) (chosen.map Prod.snd) := by
  -- Induction from the end, as `Kept` grows there: the last pair is met by both scans with the same
  -- functions kept before, moved, and overlapping does not change under the move.
  induction pairs using List.reverseRecOn generalizing kept with
  | nil =>
      have nothing := List.sublist_nil.mp h.sublist
      exact ⟨[], .slnil, nothing.symm, .nil⟩
  | append_singleton pairs pair ih =>
      have last : pair ∈ pairs ++ [pair] := by simp
      rw [List.map_append, List.map_singleton] at h
      obtain ⟨before, scanned, next⟩ := h.of_append
      obtain ⟨chosen, sublist, rfl, scanned'⟩ :=
        ih (fun pair member => alike pair (List.mem_append_left _ member))
          (fun pair member => agree pair (List.mem_append_left _ member)) scanned
      have overlaps : ∀ earlier ∈ chosen,
          earlier.1.range.overlaps pair.1.range = earlier.2.range.overlaps pair.2.range := by
        intro earlier member
        have moved := alike earlier (List.mem_append_left _ (sublist.subset member))
        exact moved.range.overlaps_eq (alike pair last).range
      rw [List.map_append, List.map_singleton]
      rcases next with ⟨wants, free, rfl⟩ | ⟨blocked, rfl⟩
      · refine ⟨chosen ++ [pair], sublist.append (List.Sublist.refl _), by simp, ?_⟩
        rw [List.map_append, List.map_singleton]
        refine .keep scanned' ((agree pair last).mp wants) ?_
        intro function member
        obtain ⟨earlier, inChosen, rfl⟩ := List.mem_map.mp member
        rw [← overlaps earlier inChosen]
        exact free earlier.1 (List.mem_map_of_mem inChosen)
      · refine ⟨chosen, sublist.trans (List.sublist_append_left _ _), rfl, ?_⟩
        refine .pass scanned' fun wants => ?_
        obtain ⟨function, member, clash⟩ := blocked ((agree pair last).mpr wants)
        obtain ⟨earlier, inChosen, rfl⟩ := List.mem_map.mp member
        rw [overlaps earlier inChosen] at clash
        exact ⟨earlier.2, List.mem_map_of_mem inChosen, clash⟩

/-! ## The records -/

theorem length_dedup_map_congr {α β γ : Type} [DecidableEq β] [DecidableEq γ] {first : α → β}
    {second : α → γ} {values : List α}
    (agree : ∀ value ∈ values, ∀ other ∈ values,
      first value = first other ↔ second value = second other) :
    (values.map first).dedup.length = (values.map second).dedup.length := by
  induction values with
  | nil => rfl
  | cons value rest ih =>
      have shorter := ih fun value member other member' =>
        agree value (List.mem_cons_of_mem _ member) other (List.mem_cons_of_mem _ member')
      have again : first value ∈ rest.map first ↔ second value ∈ rest.map second := by
        rw [List.mem_map, List.mem_map]
        refine exists_congr fun other => and_congr_right fun member => ?_
        exact agree other (List.mem_cons_of_mem _ member) value List.mem_cons_self
      rw [List.map_cons, List.map_cons]
      by_cases repeated : first value ∈ rest.map first
      · rw [List.dedup_cons_of_mem repeated, List.dedup_cons_of_mem (again.mp repeated), shorter]
      · rw [List.dedup_cons_of_notMem repeated, List.dedup_cons_of_notMem (mt again.mpr repeated),
          List.length_cons, List.length_cons, shorter]

/-- Two selections keep the same functions in the same order. Their records tell the moved addresses
    and are the same otherwise, also under their keys in the file. -/
structure SameChoice (distance : Int) (functions functions' kept kept' : List DumpFunction)
    (written written' : List Record) (records records' : RecordMap) : Prop where
  kept : ∃ chosen : List (DumpFunction × DumpFunction), chosen.Subperm (functions.zip functions') ∧
    chosen.map Prod.fst = kept ∧ chosen.map Prod.snd = kept'
  written : List.Forall₂ (Record.Moved distance) written written'
  stored : ∀ range range', AddressRange.Moved distance range range' →
    Option.Rel (Record.Moved distance) records[range.key]? records'[range'.key]?
  size : records'.size = records.size

section

variable {distance : Int} {context other : ExtractionContext}

theorem written_rel (h : context.Moved distance other) {chosen : List (DumpFunction × DumpFunction)}
    (alike : ∀ pair ∈ chosen, pair.1.Moved distance pair.2) {written written' : List Record}
    (built : List.Forall₂ context.Records (chosen.map Prod.fst) written)
    (built' : List.Forall₂ other.Records (chosen.map Prod.snd) written') :
    List.Forall₂ (Record.Moved distance) written written' := by
  induction chosen generalizing written written' with
  | nil =>
      cases built
      cases built'
      exact .nil
  | cons pair rest ih =>
      cases built with
      | cons records built =>
          cases built' with
          | cons records' built' =>
              refine .cons (h.records_rel (alike pair List.mem_cons_self) records records') ?_
              exact ih (fun pair member => alike pair (List.mem_cons_of_mem _ member)) built built'

theorem stored_rel {written written' : List Record}
    (alike : List.Forall₂ (Record.Moved distance) written written') {range range' : AddressRange}
    (moved : AddressRange.Moved distance range range') :
    Option.Rel (Record.Moved distance)
      (lastGiven? range.key (written.map fun record => (record.address, record)))
      (lastGiven? range'.key (written'.map fun record => (record.address, record))) := by
  have agree : ∀ key key', (∃ other other', AddressRange.Moved distance other other' ∧
      key = other.key ∧ key' = other'.key) → (key = range.key ↔ key' = range'.key) := by
    rintro _ _ ⟨other, other', movedOther, rfl, rfl⟩
    have injective {first second : AddressRange} : first.key = second.key ↔ first = second :=
      ⟨AddressRange.key_injective, congrArg AddressRange.key⟩
    rw [injective, injective]
    exact movedOther.eq_iff moved
  refine lastGiven?_rel agree ?_
  rw [List.forall₂_map_left_iff, List.forall₂_map_right_iff]
  exact alike.imp fun _ _ records => ⟨records.address, records⟩

/-- From moved functions in moved surroundings the same choice is made. -/
theorem exists_sameChoice (h : context.Moved distance other) {functions functions' : List DumpFunction}
    (moved : List.Forall₂ (DumpFunction.Moved distance) functions functions') :
    ∃ kept kept' written written',
      Selected context functions kept written (selectRecords context functions) ∧
      Selected other functions' kept' written' (selectRecords other functions') ∧
      SameChoice distance functions functions' kept kept' written written'
        (selectRecords context functions) (selectRecords other functions') := by
  obtain ⟨pairs, zipped, alike, order, order'⟩ := exists_scanOrder_pairs moved
  obtain ⟨kept, written, selected⟩ := exists_selected context functions
  obtain ⟨kept', written', selected'⟩ := exists_selected other functions'
  have scanned := selected.scanned
  have scanned' := selected'.scanned
  rw [order] at scanned
  rw [order'] at scanned'
  obtain ⟨chosen, sublist, rfl, scannedAlike⟩ :=
    scanned.of_moved alike fun pair member => h.wants_iff (alike pair member)
  obtain rfl := scanned'.unique scannedAlike
  have alikeChosen : ∀ pair ∈ chosen, pair.1.Moved distance pair.2 :=
    fun pair member => alike pair (sublist.subset member)
  have records := written_rel h alikeChosen selected.built selected'.built
  refine ⟨_, _, written, written', selected, selected', ?_, records, ?_, ?_⟩
  · exact ⟨chosen, sublist.subperm.trans zipped.subperm, rfl, rfl⟩
  · intro range range' movedRange
    rw [selected.stored, selected'.stored]
    exact stored_rel records movedRange
  · rw [selected.size_eq, selected'.size_eq, List.map_map, List.map_map]
    refine (length_dedup_map_congr fun pair member pair' member' => ?_).symm
    exact (alikeChosen pair member).range.eq_iff (alikeChosen pair' member').range

end

/-! ## Extraction -/

section

variable {distance : Int} {entries entries' : List (String × Address)}
  {dump dump' : Dump}

theorem NameMap.find?_moved (filter : NameFilter)
    (moved : List.Forall₂ (NameMap.MovedEntry distance) entries entries')
    {first first' : Address} (here : Moved distance first first') :
    (ofEntries filter entries).find? first = (ofEntries filter entries').find? first' := by
  have agree : ∀ other other', Moved distance other other' → (other = first ↔ other' = first') :=
    fun _ _ same => same.eq_iff here
  rw [find?_ofEntries, find?_ofEntries]
  refine lastGiven?_congr agree (List.rel_filterMap (fun entry entry' alike => ?_) moved)
  dsimp only
  rw [alike.name]
  cases filter.keptForm? entry.1.toList with
  | none => exact .none
  | some kept => exact .some ⟨alike.first, rfl⟩

theorem Extractor.context_moved (extractor : Extractor)
    (names : List.Forall₂ (NameMap.MovedEntry distance) entries entries')
    (moved : dump.Moved distance dump') {textSection textSection' : AddressRange}
    (section' : AddressRange.Moved distance textSection textSection') :
    (extractor.context entries textSection dump).Moved distance
      (extractor.context entries' textSection' dump') where
  segmenter := rfl
  settings := rfl
  textSection := section'
  names _ _ here := NameMap.find?_moved extractor.nameFilter names here
  symbols := by
    apply SymbolTable.moved_ofList
    rw [List.forall₂_map_left_iff, List.forall₂_map_right_iff]
    exact moved.symbols.imp fun _ _ symbol => ⟨symbol.address, by rw [symbol.fullName]⟩
  fullNames := by
    apply SymbolTable.moved_ofList
    rw [List.forall₂_map_left_iff, List.forall₂_map_right_iff]
    exact moved.symbols.imp fun _ _ symbol => ⟨symbol.address, symbol.fullName.symm⟩

variable {extractor : Extractor} {disk disk' : Disk} {binary binary' : String}

/-- A binary and the same binary moved by a distance are extracted alike: the same functions are kept
    in the same order, their records differ in their addresses only, and as many functions are
    counted and left out. -/
theorem extract_moved (reads : extractor.Reads disk binary entries dump)
    (reads' : extractor.Reads disk' binary' entries' dump')
    (names : List.Forall₂ (NameMap.MovedEntry distance) entries entries')
    (moved : dump.Moved distance dump') :
    (dump.textSection = none ∧ dump'.textSection = none ∧
      extractor.extract disk binary = (disk, .ok .noTextSection) ∧
      extractor.extract disk' binary' = (disk', .ok .noTextSection)) ∨
    ∃ textSection textSection' kept kept' written written' records records' skipped,
      dump.textSection = some textSection ∧ dump'.textSection = some textSection' ∧
      Selected (extractor.context entries textSection dump) dump.functions kept written records ∧
      Selected (extractor.context entries' textSection' dump') dump'.functions kept' written'
        records' ∧
      SameChoice distance dump.functions dump'.functions kept kept' written written' records
        records' ∧
      records.size + skipped = dump.functions.length ∧
      extractor.Stores disk binary records skipped ∧
      extractor.Stores disk' binary' records' skipped := by
  have sections := moved.textSection
  cases here : dump.textSection with
  | none =>
      cases here' : dump'.textSection with
      | some textSection' =>
          rw [here, here'] at sections
          cases sections
      | none =>
          refine .inl ⟨rfl, rfl, ?_, ?_⟩
          · rw [reads.extract_eq, here]
          · rw [reads'.extract_eq, here']
  | some textSection =>
      cases here' : dump'.textSection with
      | none =>
          rw [here, here'] at sections
          cases sections
      | some textSection' =>
          rw [here, here'] at sections
          cases sections with
          | some movedSection =>
              have context := extractor.context_moved names moved movedSection
              obtain ⟨kept, kept', written, written', selected, selected', same⟩ :=
                exists_sameChoice context moved.functions
              obtain ⟨skipped, counted⟩ := Nat.exists_eq_add_of_le selected.size_le
              have counted' := counted
              rw [moved.functions.length_eq, ← same.size] at counted'
              exact .inr ⟨textSection, textSection', kept, kept', written, written', _, _, _, rfl, rfl,
                selected, selected', same, counted.symm, reads.stores here rfl counted.symm,
                reads'.stores here' rfl counted'.symm⟩

end

/-- The dump of a binary whose section begins at an address. Its only function has a token for an
    address that lies before the section, or for a number below all addresses. -/
def loadedDump (base : Address) (text : String) (value : TokenValue) : Dump :=
  ⟨some ⟨base, base + 50⟩, [⟨base + 10, "main"⟩],
    [⟨⟨base + 10, base + 20⟩, false, ⟨[[⟨.possibleAddress, text, some value⟩]], [], []⟩, some "x"⟩]⟩

/-- Loaded at zero, the token says minus two. -/
def dumpAtZero : Dump := loadedDump 0 "-2" ⟨-2, by decide, by decide⟩

/-- Loaded at four, it says two. -/
def dumpAtFour : Dump := loadedDump 4 "2" ⟨2, by decide, by decide⟩

def diskAtZero : Disk :=
  .ofBinary "prog" "\x7b\"main\": [10, 20]\x7d"
    ("[[0, 50], [[10, \"main\"]], [[10, 20, false, " ++
      "[[[\"possible_address\", \"-2\", -2]]], [], [], \"x\"]]]")

def diskAtFour : Disk :=
  .ofBinary "prog" "\x7b\"main\": [14, 24]\x7d"
    ("[[4, 54], [[14, \"main\"]], [[14, 24, false, " ++
      "[[[\"possible_address\", \"2\", 2]]], [], [], \"x\"]]]")

theorem reads_diskAtZero : Extractor.standard.Reads diskAtZero "prog" [("main", 10)] dumpAtZero :=
  Extractor.reads_ofBinary (by decide +kernel) (by decide +kernel)

theorem reads_diskAtFour : Extractor.standard.Reads diskAtFour "prog" [("main", 14)] dumpAtFour :=
  Extractor.reads_ofBinary (by decide +kernel) (by decide +kernel)

theorem dumpAtZero_moved : dumpAtZero.Moved 4 dumpAtFour where
  textSection := .some ⟨by decide, by decide⟩
  symbols := .cons ⟨by decide, rfl⟩ .nil
  functions := .cons
    { range := ⟨by decide, by decide⟩
      isSkipped := rfl
      streams := ⟨.cons (.cons (.address rfl rfl) .nil) .nil, .nil, .nil⟩
      pseudoCode := rfl }
    .nil

/-- The function is kept and its record stays the same, though only one of the token's values is an
    address. -/
theorem extract_alike_at_zero_and_four :
    Extractor.standard.Reads diskAtZero "prog" [("main", 10)] dumpAtZero ∧
      Extractor.standard.Reads diskAtFour "prog" [("main", 14)] dumpAtFour ∧
      dumpAtZero.Moved 4 dumpAtFour ∧
      ∃ kept' written written' records records',
        Selected (Extractor.standard.context [("main", 10)] ⟨0, 50⟩ dumpAtZero) dumpAtZero.functions
          dumpAtZero.functions written records ∧
        SameChoice 4 dumpAtZero.functions dumpAtFour.functions dumpAtZero.functions kept' written
          written' records records' ∧
        Extractor.standard.Stores diskAtZero "prog" records 0 ∧
        Extractor.standard.Stores diskAtFour "prog" records' 0 := by
  refine ⟨reads_diskAtZero, reads_diskAtFour, dumpAtZero_moved, ?_⟩
  have names : List.Forall₂ (NameMap.MovedEntry 4) [("main", 10)] [("main", 14)] :=
    .cons ⟨rfl, by decide⟩ .nil
  have wants : ∀ function ∈ dumpAtZero.functions,
      (Extractor.standard.context [("main", 10)] ⟨0, 50⟩ dumpAtZero).Wants function := by
    decide +kernel
  have one : Kept (Extractor.standard.context [("main", 10)] ⟨0, 50⟩ dumpAtZero).Wants
      dumpAtZero.functions dumpAtZero.functions :=
    .keep .nil (wants _ (by decide)) (by decide)
  obtain ⟨none, -⟩ | ⟨textSection, textSection', kept, kept', written, written', records, records',
      skipped, here, -, selected, -, same, counted, stores, stores'⟩ :=
    extract_moved reads_diskAtZero reads_diskAtFour names dumpAtZero_moved
  · cases none
  · cases here
    obtain rfl := selected.kept_eq (by decide) one
    have size := selected.size_eq
    have kept : (dumpAtZero.functions.map (·.range)).dedup.length = 1 := by decide
    have functions : dumpAtZero.functions.length = 1 := rfl
    obtain rfl : skipped = 0 := by omega
    exact ⟨kept', written, written', records, records', selected, same, stores, stores'⟩

end SymbolCorpus
