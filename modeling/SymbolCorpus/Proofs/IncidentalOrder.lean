import Mathlib.Logic.Relation
import SymbolCorpus.Proofs.GreedyChoice
import SymbolCorpus.Proofs.Reextraction

/-! # Incidental order

The order in which a name map gives its names, and a host its symbols and functions, says nothing.
Names are sorted before they are kept, symbols are looked up by their addresses, and functions are
sorted before they are scanned. As long as nothing is given twice, extraction comes to the same for
every order.
-/

namespace SymbolCorpus

/-! ## Decoding all of a list -/

section

variable {α β γ : Type} {decode : α → Option β} {values values' : List α}

theorem mapM_cons_option (decode : α → Option β) (value : α) (rest : List α) :
    (value :: rest).mapM decode =
      (decode value).bind fun result => (rest.mapM decode).map (result :: ·) := by
  rw [List.mapM_cons]
  cases decode value with
  | none => rfl
  | some result => cases rest.mapM decode <;> rfl

theorem mapM_perm (decode : α → Option β) (perm : values.Perm values') :
    Option.Rel List.Perm (values.mapM decode) (values'.mapM decode) := by
  induction perm with
  | nil => exact .some .nil
  | cons value _ ih =>
      rw [mapM_cons_option, mapM_cons_option]
      cases decode value with
      | none => exact .none
      | some result =>
          generalize List.mapM decode _ = results at ih ⊢
          generalize List.mapM decode _ = results' at ih ⊢
          cases ih with
          | none => exact .none
          | some perm => exact .some (perm.cons result)
  | swap first second rest =>
      simp only [mapM_cons_option]
      cases decode first <;> cases decode second <;> cases rest.mapM decode <;>
        first | exact .none | exact .some (.swap ..)
  | trans _ _ ih ih' =>
      -- The list in between decodes as the first does, so all three do or none.
      generalize List.mapM decode _ = results at ih ih' ⊢
      generalize List.mapM decode _ = results' at ih ih' ⊢
      generalize List.mapM decode _ = results'' at ih ih' ⊢
      cases ih with
      | none => exact ih'
      | some perm =>
          cases ih' with
          | some perm' => exact .some (perm.trans perm')

theorem rel_bind {Alike : α → γ → Prop} {Same : β → β → Prop} {value : Option α} {value' : Option γ}
    {next : α → Option β} {next' : γ → Option β} (h : Option.Rel Alike value value')
    (step : ∀ first second, Alike first second → Option.Rel Same (next first) (next' second)) :
    Option.Rel Same (value.bind next) (value'.bind next') := by
  cases h with
  | none => exact .none
  | some alike => exact step _ _ alike

theorem map_of_mapM {key : α → γ} {key' : β → γ} {results : List β}
    (h : values.mapM decode = some results)
    (keeps : ∀ value result, decode value = some result → key' result = key value) :
    results.map key' = values.map key := by
  induction values generalizing results with
  | nil =>
      cases h
      rfl
  | cons value rest ih =>
      rw [mapM_cons_option] at h
      obtain ⟨result, decoded, whole⟩ := Option.bind_eq_some_iff.mp h
      obtain ⟨others, later, rfl⟩ := Option.map_eq_some_iff.mp whole
      rw [List.map_cons, List.map_cons, keeps value result decoded, ih later]

end

/-! ## Names -/

namespace NameMap

/-- The names of a document with their first addresses, in the order of the document. -/
def given? (document : Json) : Option (List (String × Address)) :=
  document.asObject?.bind fun fields =>
    fields.mapM fun field => (addressPair? field.2).map fun pair => (field.1, pair.1)

theorem entries?_eq (document : Json) :
    entries? document = (given? document).map fun pairs => (Std.TreeMap.ofList pairs).toList := by
  unfold entries? given?
  cases document.asObject? with
  | none => rfl
  | some fields =>
      simp only [Option.bind_eq_bind, Option.bind_some, Option.map_eq_bind]
      rfl

theorem keys_of_given? {fields : List (Option (List Char) × Json)} {pairs : List (String × Address)}
    (h : given? (.object fields) = some pairs) :
    (pairs.map Prod.fst).map String.toList = fields.filterMap Prod.fst := by
  obtain ⟨named, read, paired⟩ := Option.bind_eq_some_iff.mp h
  have texts : named.map (fun field => some field.1.toList) = fields.map Prod.fst := by
    apply map_of_mapM read
    intro field result keyed
    obtain ⟨key, present, rfl⟩ := Option.map_eq_some_iff.mp keyed
    rw [present, String.toList_ofList]
  have keys : pairs.map Prod.fst = named.map Prod.fst := by
    apply map_of_mapM paired
    intro field result decoded
    obtain ⟨pair, -, rfl⟩ := Option.map_eq_some_iff.mp decoded
    rfl
  have all := congrArg (List.filterMap id) texts
  rw [keys]
  simpa [List.filterMap_map, Function.comp_def] using all

/-- An object of different names has the same entries in every order. -/
theorem entries?_perm {fields fields' : List (Option (List Char) × Json)}
    (perm : fields.Perm fields') (distinct : (fields.filterMap Prod.fst).Nodup) :
    entries? (.object fields) = entries? (.object fields') := by
  have alike : Option.Rel List.Perm (given? (.object fields)) (given? (.object fields')) := by
    apply rel_bind (mapM_perm _ perm)
    intro named named' perm
    exact mapM_perm _ perm
  have keys : ∀ pairs, given? (.object fields) = some pairs → (pairs.map Prod.fst).Nodup := by
    intro pairs given
    rw [← keys_of_given? given] at distinct
    exact distinct.of_map
  rw [entries?_eq, entries?_eq]
  generalize given? (.object fields) = pairs at *
  generalize given? (.object fields') = pairs' at *
  cases alike with
  | none => rfl
  | some perm => exact congrArg some (toList_ofList_perm perm (keys _ rfl))

end NameMap

/-! ## Functions -/

theorem AddressRange.precedes_antisymm {range other : AddressRange}
    (forth : range.precedes other = true) (back : other.precedes range = true) : range = other := by
  obtain ⟨first, last⟩ := range
  obtain ⟨first', last'⟩ := other
  simp only [AddressRange.precedes, Bool.or_eq_true, Bool.and_eq_true, decide_eq_true_eq,
    UInt64.lt_iff_toNat_lt, UInt64.le_iff_toNat_le, ← UInt64.toNat_inj, AddressRange.mk.injEq] at *
  omega

/-- Functions of different ranges are scanned in one order. -/
theorem scanOrder_eq_of_perm {functions functions' : List DumpFunction}
    (perm : functions.Perm functions') (distinct : (functions.map (·.range)).Nodup) :
    scanOrder functions = scanOrder functions' := by
  have same : (scanOrder functions).Perm (scanOrder functions') :=
    (scanOrder_perm functions).trans (perm.trans (scanOrder_perm functions').symm)
  refine same.eq_of_pairwise ?_ (scanOrder_sorted functions) (scanOrder_sorted functions')
  intro function other member member' forth back
  -- Only functions of one range come before each other, and no two functions have one.
  have ranges := AddressRange.precedes_antisymm forth back
  have there := (scanOrder_perm functions).mem_iff.mp member
  have there' := (scanOrder_perm functions).mem_iff.mp (same.mem_iff.mpr member')
  exact List.inj_on_of_nodup_map distinct there there' ranges

/-! ## Records -/

/-- The same names, found through other tables. -/
structure ExtractionContext.Alike (context other : ExtractionContext) : Prop where
  segmenter : other.segmenter = context.segmenter
  settings : other.settings = context.settings
  textSection : other.textSection = context.textSection
  names : other.names = context.names
  symbols : ∀ address, other.symbols.find? address = context.symbols.find? address
  fullNames : ∀ address, other.fullNames.find? address = context.fullNames.find? address

theorem FunctionStreams.abstracted_congr (streams : FunctionStreams) (threshold : Int)
    (function textSection : AddressRange) {symbols symbols' : SymbolTable}
    (same : ∀ address, symbols'.find? address = symbols.find? address) :
    streams.abstracted threshold ⟨function, textSection, symbols'⟩ =
      streams.abstracted threshold ⟨function, textSection, symbols⟩ := by
  have render : ∀ abstraction : Abstraction,
      abstraction.render ⟨function, textSection, symbols'⟩ =
        abstraction.render ⟨function, textSection, symbols⟩ := by
    intro abstraction
    funext token
    simp only [Abstraction.render, Abstraction.renderAddress, same]
  simp only [FunctionStreams.abstracted, abstractStream, render]

theorem ExtractionContext.Alike.candidate?_eq {context other : ExtractionContext}
    (alike : context.Alike other) : other.candidate? = context.candidate? := by
  funext function
  have built : ∀ name text, other.build? function name text = context.build? function name text := by
    intro name text
    unfold build? masked
    simp only [alike.segmenter, alike.settings, alike.textSection, alike.fullNames,
      FunctionStreams.abstracted_congr _ _ _ _ alike.symbols]
  unfold candidate?
  rw [alike.names, alike.textSection]
  simp only [built]

/-- A dump with its symbols, which have different addresses, or its functions, which have different
    ranges, in another order. -/
inductive Dump.Reordered (dump : Dump) : Dump → Prop where
  | symbols {symbols : List DumpSymbol} (perm : dump.symbols.Perm symbols)
      (distinct : (dump.symbols.map (·.address)).Nodup) : dump.Reordered { dump with symbols }
  | functions {functions : List DumpFunction} (perm : dump.functions.Perm functions)
      (distinct : (dump.functions.map (·.range)).Nodup) : dump.Reordered { dump with functions }

theorem SymbolTable.find?_perm {symbols symbols' : List DumpSymbol} (perm : symbols.Perm symbols')
    (distinct : (symbols.map (·.address)).Nodup) (shown : DumpSymbol → String) (address : Address) :
    (ofList (symbols'.map fun symbol => (symbol.address, shown symbol))).find? address =
      (ofList (symbols.map fun symbol => (symbol.address, shown symbol))).find? address := by
  have keys : ((symbols.map fun symbol => (symbol.address, shown symbol)).map Prod.fst).Nodup := by
    rw [List.map_map]
    exact distinct
  rw [find?_ofList, find?_ofList, lastGiven?_perm (perm.map _) keys]

namespace Extractor

variable {extractor : Extractor}

theorem select_reordered {dump other : Dump} (reordered : dump.Reordered other) (names : NameMap)
    (textSection : AddressRange) :
    extractor.select names textSection other = extractor.select names textSection dump := by
  cases reordered with
  | @symbols symbols perm distinct =>
      have alike : ExtractionContext.Alike
          (.ofDump extractor.segmenter extractor.settings names textSection dump.symbols)
          (.ofDump extractor.segmenter extractor.settings names textSection symbols) :=
        { segmenter := rfl
          settings := rfl
          textSection := rfl
          names := rfl
          symbols := SymbolTable.find?_perm perm distinct _
          fullNames := SymbolTable.find?_perm perm distinct _ }
      unfold select selectRecords
      rw [alike.candidate?_eq]
  | functions perm distinct =>
      unfold select selectRecords
      rw [scanOrder_eq_of_perm perm distinct]

/-! ## What is seen of an extraction -/

/-- The records of a dump and how many functions it has; none without a section of code. -/
def selected? (extractor : Extractor) (names : NameMap) (dump : Dump) : Option (RecordMap × Nat) :=
  dump.textSection.map fun textSection =>
    (extractor.select names textSection dump, dump.functions.length)

theorem selected?_reordered {dump other : Dump} (reordered : dump.Reordered other) (names : NameMap) :
    extractor.selected? names other = extractor.selected? names dump := by
  have sections : other.textSection = dump.textSection := by cases reordered <;> rfl
  have counts : other.functions.length = dump.functions.length := by
    cases reordered with
    | symbols => rfl
    | functions perm => exact perm.length_eq.symm
  unfold selected?
  rw [sections, counts]
  simp only [select_reordered reordered]

/-- Writes the records of a dump to a file. -/
def store (disk : Disk) (output : String) :
    Option (RecordMap × Nat) → Disk × Except ExtractionError ExtractionOutcome
  | none => (disk, .ok .noTextSection)
  | some (records, total) => writeRecords disk output records total

/-- How a run ended, and what the file of the records holds after it. -/
def seen (binary : String) (run : Disk × Except ExtractionError ExtractionOutcome) :
    Except ExtractionError ExtractionOutcome × Except FileError ByteArray :=
  (run.2, run.1.read (Sidecar.recordsFile binary))

variable {disk other : Disk} {binary : String}

theorem seen_writeRecords (records : RecordMap) (total : Nat) :
    seen binary (writeRecords disk (Sidecar.recordsFile binary) records total) =
      match disk.newPlace (Sidecar.recordsFile binary) with
      | .error error =>
          (.error (.unwritable (Sidecar.recordsFile binary) error),
            disk.read (Sidecar.recordsFile binary))
      | .ok _ =>
          (.ok (.extracted records.size (total - records.size) (Sidecar.recordsFile binary)),
            .ok (Text.toOctets ((RecordMap.toJson records).layOut 0))) := by
  rcases writeRecords_cases disk (Sidecar.recordsFile binary) records total with
    ⟨after, written, run⟩ | ⟨error, noPlace, run⟩
  · obtain ⟨folder, name, opens, -⟩ := Disk.write_eq_ok written
    rw [run, opens.newPlace]
    exact Prod.ext rfl (Disk.read_of_write written)
  · rw [run, noPlace]
    rfl

theorem extract_eq_store : extractor.extract disk binary =
    if !extractor.force && disk.isNonempty (Sidecar.recordsFile binary) then
      (disk, .ok (.alreadyDone (Sidecar.recordsFile binary)))
    else if !disk.isFile (Sidecar.nameMapFile binary) then
      (disk, .ok (.missingNameMap (Sidecar.nameMapFile binary)))
    else
      match disk.loadNameMap extractor.nameFilter (Sidecar.nameMapFile binary) with
      | .error cause => (disk, .error (.names cause))
      | .ok names =>
          match (extractor.host.load disk binary).map (extractor.selected? names) with
          | .error cause => (disk, .error (.host cause))
          | .ok selected => store disk (Sidecar.recordsFile binary) selected := by
  unfold extract
  dsimp only
  split
  · rfl
  · split
    · rfl
    · cases disk.loadNameMap extractor.nameFilter (Sidecar.nameMapFile binary) with
      | error error => rfl
      | ok names =>
          cases extractor.host.load disk binary with
          | error error => rfl
          | ok dump =>
              simp only [Except.map, selected?]
              cases dump.textSection <;> rfl

/-- One disk gives an extraction what another gives it, and has the same place for the records. -/
structure SameInputs (extractor : Extractor) (binary : String) (disk other : Disk) : Prop where
  records : other.SameAt disk (Sidecar.recordsFile binary)
  place : other.newPlace (Sidecar.recordsFile binary) = disk.newPlace (Sidecar.recordsFile binary)
  isFile : other.isFile (Sidecar.nameMapFile binary) = disk.isFile (Sidecar.nameMapFile binary)
  names : other.loadNameMap extractor.nameFilter (Sidecar.nameMapFile binary) =
    disk.loadNameMap extractor.nameFilter (Sidecar.nameMapFile binary)
  selected : ∀ names, (extractor.host.load other binary).map (extractor.selected? names) =
    (extractor.host.load disk binary).map (extractor.selected? names)

theorem SameInputs.seen_store (same : extractor.SameInputs binary disk other)
    (selected : Option (RecordMap × Nat)) :
    seen binary (store other (Sidecar.recordsFile binary) selected) =
      seen binary (store disk (Sidecar.recordsFile binary) selected) := by
  cases selected with
  | none => exact Prod.ext rfl same.records.read
  | some pair =>
      rw [store, store, seen_writeRecords, seen_writeRecords, same.place, same.records.read]

theorem SameInputs.seen_extract (same : extractor.SameInputs binary disk other) :
    seen binary (extractor.extract other binary) =
      seen binary (extractor.extract disk binary) := by
  have records := same.records.read
  rw [extract_eq_store, extract_eq_store, same.records.isNonempty, same.isFile, same.names]
  split
  · exact Prod.ext rfl records
  · split
    · exact Prod.ext rfl records
    · cases disk.loadNameMap extractor.nameFilter (Sidecar.nameMapFile binary) with
      | error error => exact Prod.ext rfl records
      | ok names =>
          simp only [same.selected names]
          cases (extractor.host.load disk binary).map (extractor.selected? names) with
          | error error => exact Prod.ext rfl records
          | ok selected => exact same.seen_store selected

end Extractor

/-! ## Files in another order -/

/-- A disk on which a file beside a binary says the same in another order: the name map with its names,
    or the dump with its symbols or its functions. -/
inductive Disk.Reordered (binary : String) (disk : Disk) : Disk → Prop where
  | names {text text' : List Char} {fields fields' : List (Option (List Char) × Json)} {other : Disk}
      (read : disk.readText (Sidecar.nameMapFile binary) = .ok text)
      (given : Json.read text = some (.object fields))
      (perm : fields.Perm fields')
      (distinct : (fields.filterMap Prod.fst).Nodup)
      (given' : Json.read text' = some (.object fields'))
      (written : disk.writeText (Sidecar.nameMapFile binary) text' = .ok other) :
      Disk.Reordered binary disk other
  | dump {dump dump' : Dump} {octets : ByteArray} {other : Disk}
      (known : disk.loadDump binary = .ok dump)
      (reordered : dump.Reordered dump')
      (given' : (Json.ofOctets octets).bind Dump.ofJson? = some dump')
      (written : disk.write (Sidecar.dumpFile binary) octets = .ok other) :
      Disk.Reordered binary disk other

namespace Disk.Reordered

variable {disk other : Disk} {binary : String}

theorem loadNameMap_eq {filter : NameFilter} {path : String} {text text' : List Char}
    {fields fields' : List (Option (List Char) × Json)}
    (read : disk.readText path = .ok text) (given : Json.read text = some (.object fields))
    (perm : fields.Perm fields') (distinct : (fields.filterMap Prod.fst).Nodup)
    (given' : Json.read text' = some (.object fields')) (read' : other.readText path = .ok text') :
    other.loadNameMap filter path = disk.loadNameMap filter path := by
  have names : NameMap.ofJson? filter (.object fields') = NameMap.ofJson? filter (.object fields) := by
    rw [NameMap.ofJson?, NameMap.ofJson?, NameMap.entries?_perm perm distinct]
  unfold Disk.loadNameMap
  rw [read, read', mapError_ok, mapError_ok, ok_bind, ok_bind, given, given', Option.bind_some,
    Option.bind_some, names]

theorem loadDump_of_write {octets : ByteArray} {dump : Dump}
    (written : disk.write (Sidecar.dumpFile binary) octets = .ok other)
    (given : (Json.ofOctets octets).bind Dump.ofJson? = some dump) :
    other.loadDump binary = .ok dump := by
  have read := read_of_write written
  simp only [Disk.loadDump, isFile_of_read read, read, mapError_ok, ok_bind, given]
  rfl

theorem sameInputs (h : disk.Reordered binary other) (extractor : Extractor) :
    extractor.SameInputs binary disk other := by
  cases h with
  | names read given perm distinct given' written =>
      have read' := readText_of_write written
      have ⟨records, place⟩ := spares_of_write written (by decide) (by decide)
        (rfl : Sidecar.recordsEnding.toList.getLast? = _) (by decide) (by decide)
      have dumps : other.SameAt disk (Sidecar.dumpFile binary) :=
        (spares_of_write written (by decide) (by decide)
          (rfl : Sidecar.dumpEnding.toList.getLast? = _) (by decide) (by decide)).1
      exact
        { records
          place
          isFile := by rw [isFile_of_readText read, isFile_of_readText read']
          names := loadNameMap_eq read given perm distinct given' read'
          selected := fun names => by simp only [AnalysisHost.load, dumps.loadDump] }
  | dump known reordered given' written =>
      have known' := loadDump_of_write written given'
      have ⟨records, place⟩ := spares_of_write written (by decide) (by decide)
        (rfl : Sidecar.recordsEnding.toList.getLast? = _) (by decide) (by decide)
      have nameMaps : other.SameAt disk (Sidecar.nameMapFile binary) :=
        (spares_of_write written (by decide) (by decide)
          (rfl : Sidecar.nameMapEnding.toList.getLast? = _) (by decide) (by decide)).1
      exact
        { records
          place
          isFile := nameMaps.isFile
          names := by rw [loadNameMap, loadNameMap, nameMaps.readText]
          selected := fun names => by
            simp only [AnalysisHost.load, known, known', Except.map,
              extractor.selected?_reordered reordered] }

end Disk.Reordered

/-- Extraction does not depend on the order of the names in the name map, of the symbols in the dump or
    of the functions in the dump, as long as nothing is given twice. It ends in the same way, and the
    file of the records has the same octets. -/
theorem Extractor.extract_reordered (extractor : Extractor) {disk other : Disk} {binary : String}
    (reordered : Relation.ReflTransGen (Disk.Reordered binary) disk other) :
    (extractor.extract other binary).2 = (extractor.extract disk binary).2 ∧
      (extractor.diskAfter other binary).read (Sidecar.recordsFile binary) =
        (extractor.diskAfter disk binary).read (Sidecar.recordsFile binary) := by
  have same : seen binary (extractor.extract other binary) =
      seen binary (extractor.extract disk binary) := by
    induction reordered with
    | refl => rfl
    | tail _ step ih => exact (step.sameInputs extractor).seen_extract.trans ih
  exact Prod.mk.inj same

/-- Values as they are given, or from the last to the first. -/
def turned {α : Type} (values : List α) : Bool → List α
  | false => values
  | true => values.reverse

theorem turned_perm {α : Type} (values : List α) : values.Perm (turned values true) :=
  values.reverse_perm.symm

def pairNames : Bool → String
  | false => "\x7b\"a\":[0,9],\"b\":[0,9],\"c\":[20,29]\x7d"
  | true => "\x7b\"c\":[20,29],\"b\":[0,9],\"a\":[0,9]\x7d"

def pairDump (symbols functions : Bool) : Dump :=
  ⟨some ⟨0, 50⟩, turned [⟨0, "a"⟩, ⟨20, "c"⟩] symbols,
    turned
      [⟨⟨0, 9⟩, false, ⟨[], [], []⟩, some "x;"⟩, ⟨⟨20, 29⟩, false, ⟨[], [], []⟩, some "y;"⟩] functions⟩

def pairDumpText (symbols functions : Bool) : String :=
  "[[0,50],[" ++ ",".intercalate (turned ["[0,\"a\"]", "[20,\"c\"]"] symbols) ++ "],[" ++
    ",".intercalate
      (turned ["[0,9,false,[],[],[],\"x;\"]", "[20,29,false,[],[],[],\"y;\"]"] functions) ++ "]]"

/-- A disk with two functions and three names, two of these for the first function. -/
def pairDisk (names symbols functions : Bool) : Disk :=
  .ofBinary "prog" (pairNames names) (pairDumpText symbols functions)

theorem ofJson?_pairDumpText (symbols functions : Bool) :
    (Json.ofOctets (Text.toOctets (pairDumpText symbols functions).toList)).bind Dump.ofJson? =
      some (pairDump symbols functions) := by
  cases symbols <;> cases functions <;> decide +kernel

theorem read_pairNames (order : Bool) : Json.read (pairNames order).toList =
    some (.object (turned
      [(some ['a'], .array [.integer false 0, .integer false 9]),
        (some ['b'], .array [.integer false 0, .integer false 9]),
        (some ['c'], .array [.integer false 20, .integer false 29])] order)) := by
  cases order <;> simp only [pairNames, String.reduceToList] <;> rfl

theorem reordered_pairDisk :
    Relation.ReflTransGen (Disk.Reordered "prog") (pairDisk false false false)
      (pairDisk true true true) := by
  have names : Disk.Reordered "prog" (pairDisk false false false) (pairDisk true false false) :=
    .names (Disk.readText_ofBinary _ _) (read_pairNames false) (turned_perm _) (by decide)
      (read_pairNames true) rfl
  have symbols : Disk.Reordered "prog" (pairDisk true false false) (pairDisk true true false) :=
    .dump (Disk.loadDump_ofBinary _ (ofJson?_pairDumpText false false))
      (.symbols (turned_perm _) (by decide)) (ofJson?_pairDumpText true false) rfl
  have functions : Disk.Reordered "prog" (pairDisk true true false) (pairDisk true true true) :=
    .dump (Disk.loadDump_ofBinary _ (ofJson?_pairDumpText true false))
      (.functions (turned_perm _) (by decide)) (ofJson?_pairDumpText true true) rfl
  exact .tail (.tail (.single names) symbols) functions

/-- In both orders records are written, and they have the same octets. -/
theorem extract_pairDisk :
    Relation.ReflTransGen (Disk.Reordered "prog") (pairDisk false false false)
      (pairDisk true true true) ∧
    (∃ functions skipped,
      (Extractor.standard.extract (pairDisk false false false) "prog").2 =
          .ok (.extracted functions skipped (Sidecar.recordsFile "prog")) ∧
        (Extractor.standard.extract (pairDisk true true true) "prog").2 =
          .ok (.extracted functions skipped (Sidecar.recordsFile "prog"))) ∧
    (Extractor.standard.diskAfter (pairDisk true true true) "prog").read (Sidecar.recordsFile "prog") =
      (Extractor.standard.diskAfter (pairDisk false false false) "prog").read
        (Sidecar.recordsFile "prog") := by
  have reads : Extractor.standard.Reads (pairDisk false false false) "prog"
      [("a", 0), ("b", 0), ("c", 20)] (pairDump false false) :=
    Extractor.reads_ofBinary (by decide +kernel) (ofJson?_pairDumpText false false)
  have placed : (pairDisk false false false).newPlace (Sidecar.recordsFile "prog") =
      .ok ["prog.json"] :=
    eq_ok_of_toOption (by decide +kernel)
  obtain ⟨outcomes, octets⟩ := Extractor.extract_reordered .standard reordered_pairDisk
  refine ⟨reordered_pairDisk, ?_, octets⟩
  have run := reads.extract_eq
  rcases Extractor.writeRecords_cases (pairDisk false false false) (Sidecar.recordsFile "prog")
      (Extractor.standard.select (.ofEntries Extractor.standard.nameFilter _) ⟨0, 50⟩
        (pairDump false false)) 2 with
    ⟨after, -, written⟩ | ⟨error, noPlace, -⟩
  · have ended := congrArg Prod.snd (run.trans written)
    exact ⟨_, _, ended, outcomes.trans ended⟩
  · cases noPlace.symm.trans placed

end SymbolCorpus
