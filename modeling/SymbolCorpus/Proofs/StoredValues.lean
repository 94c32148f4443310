import SymbolCorpus.Ledger.Record
import SymbolCorpus.Project.Config
import SymbolCorpus.Proofs.DecodedFields
import SymbolCorpus.Proofs.LastGiven
import SymbolCorpus.Proofs.Reextraction

/-! # What is stored is read back

Every value that is kept in a file has a document, and the document is read as the value again: fields
that may be left out are left out only when that is what their absence is read as, kinds and statuses
are known by the names that are written, and numbers and texts stand for themselves. With that, the
file that an extraction leaves holds the records that it selected.
-/

namespace SymbolCorpus

open Json (asRecord?_ofFields asRecord?_present asList?_ofList asOption?_ofOption)
open Json.Fields (required? value? withDefault? nullable? value?_present withDefault?_none)

/-! ## Dumps -/

namespace AddressRange

@[simp] theorem plain_toJson (range : AddressRange) : range.toJson.Plain := by
  simp [toJson]

@[simp] theorem ofJson?_toJson (range : AddressRange) : ofJson? range.toJson = some range := by
  have record : range.toJson.asRecord? ["start", "end"] = some ⟨false, _⟩ :=
    asRecord?_ofFields (by decide) (.refl _)
  simp [ofJson?, record, required?, value?]

end AddressRange

namespace DumpSymbol

@[simp] theorem plain_toJson (symbol : DumpSymbol) : symbol.toJson.Plain := by
  simp [toJson]

@[simp] theorem ofJson?_toJson (symbol : DumpSymbol) : ofJson? symbol.toJson = some symbol := by
  have record : symbol.toJson.asRecord? ["address", "full_name"] = some ⟨false, _⟩ :=
    asRecord?_ofFields (by decide) (.refl _)
  simp [ofJson?, record, required?, value?]

end DumpSymbol

@[simp] theorem TokenValue.ofJson?_ofInt (value : TokenValue) :
    ofJson? (.ofInt value.val) = some value := by
  rw [Json.ofInt, ofJson?, Json.signed_natAbs, ofInt?_val]

namespace InstructionToken

/-- The fields of a token; the value may be left out. -/
def entries (token : InstructionToken) : List (String × Option Json) :=
  [("kind", some (.text token.kind.label)), ("text", some (.text token.text)),
    ("value", token.value.map fun value => .ofInt value.val)]

theorem toJson_eq (token : InstructionToken) :
    token.toJson = .ofFields (Json.present token.entries) := by
  obtain ⟨kind, text, _ | value⟩ := token <;> rfl

@[simp] theorem plain_toJson (token : InstructionToken) : token.toJson.Plain := by
  rw [toJson_eq]
  exact Json.plain_present (by simp [entries])

@[simp] theorem ofJson?_toJson (token : InstructionToken) : ofJson? token.toJson = some token := by
  have distinct : (token.entries.map Prod.fst).Nodup := by simp [entries]
  have record : (Json.ofFields (Json.present token.entries)).asRecord? ["kind", "text", "value"] = _ :=
    asRecord?_present distinct
  have given := value?_present distinct
  rw [toJson_eq, ofJson?, record]
  generalize (⟨false, Json.present token.entries⟩ : Json.Fields) = fields at given
  have value := withDefault?_none (given "value") TokenValue.ofJson?_ofInt rfl
  simp [required?, given, entries, value]

end InstructionToken

namespace FunctionStreams

@[simp] theorem plain_streamToJson (stream : List (List InstructionToken)) :
    (streamToJson stream).Plain := by
  simp [streamToJson]

@[simp] theorem streamOfJson?_streamToJson (stream : List (List InstructionToken)) :
    streamOfJson? (streamToJson stream) = some stream :=
  asList?_ofList (asList?_ofList InstructionToken.ofJson?_toJson) stream

end FunctionStreams

namespace DumpFunction

@[simp] theorem plain_toJson (function : DumpFunction) : function.toJson.Plain := by
  simp [toJson]

@[simp] theorem ofJson?_toJson (function : DumpFunction) : ofJson? function.toJson = some function := by
  have record : function.toJson.asRecord? fieldNames = some ⟨false, _⟩ :=
    asRecord?_ofFields (by decide) (.refl _)
  have pseudoCode := asOption?_ofOption Json.asText?_text rfl function.pseudoCode
  simp [ofJson?, record, required?, withDefault?, value?, Json.asBool?, pseudoCode]

end DumpFunction

namespace Dump

@[simp] theorem plain_toJson (dump : Dump) : dump.toJson.Plain := by
  simp [toJson]

theorem ofJson?_toJson (dump : Dump) : ofJson? dump.toJson = some dump := by
  have record : dump.toJson.asRecord? ["text_section", "symbols", "functions"] = some ⟨false, _⟩ :=
    asRecord?_ofFields (by decide) (.refl _)
  have textSection := asOption?_ofOption AddressRange.ofJson?_toJson rfl dump.textSection
  have symbols := asList?_ofList DumpSymbol.ofJson?_toJson dump.symbols
  have functions := asList?_ofList DumpFunction.ofJson?_toJson dump.functions
  simp [ofJson?, record, withDefault?, value?, textSection, symbols, functions]

end Dump

/-! ## Records -/

@[simp] theorem plain_textsToJson (texts : List InstructionText) : (textsToJson texts).Plain := by
  simp [textsToJson]

@[simp] theorem textsOfJson?_textsToJson (texts : List InstructionText) :
    textsOfJson? (textsToJson texts) = some texts :=
  asList?_ofList (asList?_ofList Json.asText?_text) texts

namespace Record

@[simp] theorem plain_toJson (record : Record) : record.toJson.Plain := by
  simp [toJson]

@[simp] theorem ofJson?_toJson (record : Record) : ofJson? record.toJson = some record := by
  have fields : record.toJson.asRecord?
      ["start_addr", "addr", "name", "instructions", "llils", "mlils", "pseudo_code"] =
        some ⟨false, _⟩ :=
    asRecord?_ofFields (by decide) (.refl _)
  have pseudoCode := asList?_ofList Json.asText?_text record.pseudoCode
  simp [ofJson?, fields, required?, value?, pseudoCode]

end Record

namespace RecordMap

@[simp] theorem plain_toJson (records : RecordMap) : (toJson records).Plain :=
  Json.plain_ofFields.mpr (List.forall_mem_map.mpr fun pair _ => pair.2.plain_toJson)

theorem ofJson?_toJson (records : RecordMap) :
    ofJson? (toJson records) = some (ofPairs records.toList) := by
  let entry (field : String × Json) : Option (String × Record) :=
    (Record.ofJson? field.2).map fun record => (field.1, record)
  have pairs : (records.toList.map fun pair => (pair.1, pair.2.toJson)).mapM entry =
      some records.toList :=
    Json.mapM_map (by simp [entry]) records.toList
  rw [ofJson?, toJson, Json.asObject?_ofFields]
  change (List.mapM entry _ >>= fun pairs => some (ofPairs pairs)) = _
  rw [pairs]
  rfl

theorem equiv_ofPairs_toList (records : RecordMap) : (ofPairs records.toList).Equiv records := by
  apply Std.TreeMap.Equiv.of_forall_constGet?_eq
  intro key
  rw [getElem?_ofPairs]
  cases found : records[key]? with
  | some record =>
      exact lastGiven?_of_mem (nodup_keys_toList records)
        (Std.TreeMap.mem_toList_iff_getElem?_eq_some.mpr found)
  | none =>
      rw [Option.eq_none_iff_forall_ne_some]
      intro record last
      have member := Std.TreeMap.mem_toList_iff_getElem?_eq_some.mp (mem_of_lastGiven? last)
      rw [found] at member
      cases member

end RecordMap

/-! ## Settings -/

namespace Settings

/-- The fields of settings; those that name files may be left out. -/
def entries (settings : Settings) : List (String × Option Json) :=
  [("dialect", some (.text settings.dialect.name)), ("keep_strings", some (.bool settings.keepStrings)),
    ("keep_calls", some (.bool settings.keepCalls)),
    ("numeric_threshold", some (.ofInt settings.threshold.toInt)),
    ("subword_vocab", settings.subwordVocabulary.map .text), ("word_list", settings.wordList.map .text),
    ("blocklist", settings.blocklist.map .text),
    ("filter_meaningless", some (.bool settings.filterMeaningless)),
    ("method_names", some (.bool settings.methodNames)), ("host", some (.text settings.host))]

theorem toJson_eq (settings : Settings) :
    settings.toJson = .ofFields (Json.present settings.entries) := by
  obtain ⟨_, _, _, _, _ | _, _ | _, _ | _, _, _, _⟩ := settings <;> rfl

@[simp] theorem plain_toJson (settings : Settings) : settings.toJson.Plain := by
  rw [toJson_eq]
  exact Json.plain_present (by simp [entries])

@[simp] theorem ofJson?_toJson (settings : Settings) : ofJson? settings.toJson = some settings := by
  have distinct : (settings.entries.map Prod.fst).Nodup := by simp [entries]
  have record : (Json.ofFields (Json.present settings.entries)).asRecord? fieldNames = _ :=
    asRecord?_present distinct
  have given := value?_present distinct
  rw [toJson_eq, ofJson?, record]
  generalize (⟨false, Json.present settings.entries⟩ : Json.Fields) = fields at given
  have subwordVocabulary := withDefault?_none (given "subword_vocab") Json.asText?_text rfl
  have wordList := withDefault?_none (given "word_list") Json.asText?_text rfl
  have blocklist := withDefault?_none (given "blocklist") Json.asText?_text rfl
  simp [subwordVocabulary, wordList, blocklist]
  simp [withDefault?, given, entries, Json.asBool?, PseudoCode.Dialect.ofName?_name]

end Settings

namespace ProjectConfig

theorem plain_toJson (config : ProjectConfig) : config.toJson.Plain := by
  simp [toJson]

theorem ofJson?_toJson (config : ProjectConfig) : ofJson? config.toJson = some config := by
  have record : config.toJson.asRecord? ["name", "description", "config_version", "db", "pipeline"] =
      some ⟨false, _⟩ :=
    asRecord?_ofFields (by decide) (.refl _)
  have path : (Json.ofFields [("path", .text config.ledgerPath)]).asRecord? ["path"] = some ⟨false, _⟩ :=
    asRecord?_ofFields (by decide) (.refl _)
  have description := asOption?_ofOption Json.asText?_text rfl config.description
  simp [ofJson?, ledgerPathOfJson?, record, path, required?, nullable?, withDefault?, value?,
    description]

end ProjectConfig

/-! ## Runs and builds -/

namespace RunRecord

theorem plain_toJson (run : RunRecord) : run.toJson.Plain := by
  simp [toJson]

theorem ofJson?_toJson (run : RunRecord) : ofJson? run.toJson = some run := by
  have record : run.toJson.asRecord?
      ["binary", "binary_hash", "host", "status", "functions", "started_at", "finished_at"] =
        some ⟨false, _⟩ :=
    asRecord?_ofFields (by decide) (.refl _)
  have binaryHash := asOption?_ofOption Json.asText?_text rfl run.binaryHash
  simp [ofJson?, record, required?, nullable?, value?, binaryHash]

end RunRecord

namespace BuildRecord

theorem plain_toJson (build : BuildRecord) : build.toJson.Plain := by
  simp [toJson]

theorem ofJson?_toJson (build : BuildRecord) : ofJson? build.toJson = some build := by
  have record : build.toJson.asRecord?
      ["split", "representation", "pairs", "dropped", "src_path", "tgt_path", "created_at"] =
        some ⟨false, _⟩ :=
    asRecord?_ofFields (by decide) (.refl _)
  simp [ofJson?, record, required?, value?]

end BuildRecord

/-! ## Written and read -/

namespace Json

/-- The texts in which a document is written: without blanks, and laid out. -/
def writtenTexts (document : Json) : List (List Char) := [document.write, document.layOut 0]

/-- However the document is written, its text and the octets of its text are read as the value. -/
def Restores {α : Type} (decode : Json → Option α) (document : Json) (value : α) : Prop :=
  ∀ text ∈ document.writtenTexts, (read text).bind decode = some value ∧
    (ofOctets (Text.toOctets text)).bind decode = some value

theorem restores_of_plain {α : Type} {decode : Json → Option α} {document : Json} {value : α}
    (plain : document.Plain) (decoded : decode document = some value) :
    Restores decode document value := by
  intro text written
  have spelled : Spells document text := by
    rcases List.mem_pair.mp written with rfl | rfl
    · exact spells_write plain
    · exact spells_layOut plain 0
  rw [read_spelled spelled, ofOctets_spelled spelled]
  exact ⟨decoded, decoded⟩

end Json

open Json (Restores restores_of_plain)

namespace RecordMap

theorem restores (records : RecordMap) :
    Restores ofJson? (toJson records) (ofPairs records.toList) :=
  restores_of_plain (plain_toJson records) (ofJson?_toJson records)

theorem loadRecords_of_written {records : RecordMap} {path : String} {disk after : Disk}
    (written : disk.writeText path ((toJson records).layOut 0) = .ok after) :
    after.loadRecords path = .ok (ofPairs records.toList) := by
  have decoded := (restores records _ (List.mem_pair.mpr (.inr rfl))).2
  rw [Disk.loadRecords, Disk.read_of_write written, mapError_ok, ok_bind, decoded]

end RecordMap

/-- The records that an extraction selects are loaded from the file that it leaves. -/
theorem Extractor.Reads.loadRecords {extractor : Extractor} {disk after : Disk} {binary output : String}
    {entries : List (String × Address)} {dump : Dump} {textSection : AddressRange}
    {functions skipped : Nat} (reads : extractor.Reads disk binary entries dump)
    (here : dump.textSection = some textSection)
    (h : extractor.extract disk binary = (after, .ok (.extracted functions skipped output))) :
    ∃ loaded, after.loadRecords output = .ok loaded ∧
      loaded.Equiv (extractor.select (.ofEntries extractor.nameFilter entries) textSection dump) ∧
      loaded.size = functions := by
  have run := reads.extract_eq
  rw [h, here] at run
  obtain ⟨outcome, written⟩ := writeRecords_eq_ok.mp run.symm
  cases outcome
  have same := RecordMap.equiv_ofPairs_toList
    (extractor.select (.ofEntries extractor.nameFilter entries) textSection dump)
  exact ⟨_, RecordMap.loadRecords_of_written written, same, same.size_eq⟩

theorem Extractor.loadRecords_of_extracted {extractor : Extractor} {disk after : Disk}
    {binary output : String} {functions skipped : Nat}
    (h : extractor.extract disk binary = (after, .ok (.extracted functions skipped output))) :
    ∃ entries dump textSection loaded, extractor.Reads disk binary entries dump ∧
      dump.textSection = some textSection ∧ after.loadRecords output = .ok loaded ∧
      loaded.Equiv (extractor.select (.ofEntries extractor.nameFilter entries) textSection dump) ∧
      loaded.size = functions := by
  obtain ⟨entries, dump, reads, some⟩ := exists_reads h
  obtain ⟨textSection, here⟩ := Option.isSome_iff_exists.mp some
  obtain ⟨loaded, read, same, size⟩ := reads.loadRecords here h
  exact ⟨entries, dump, textSection, loaded, reads, here, read, same, size⟩

/-- Dumps, records, settings, descriptions of projects, runs and builds are read as they were written.
The file that an extraction leaves is read as the records that were selected from what it had read. -/
theorem restores_stored :
    (∀ dump : Dump, Restores Dump.ofJson? dump.toJson dump) ∧
    (∀ records : RecordMap, ∃ again, Restores RecordMap.ofJson? (RecordMap.toJson records) again ∧
      again.Equiv records) ∧
    (∀ record : Record, Restores Record.ofJson? record.toJson record) ∧
    (∀ settings : Settings, Restores Settings.ofJson? settings.toJson settings) ∧
    (∀ config : ProjectConfig, Restores ProjectConfig.ofJson? config.toJson config) ∧
    (∀ run : RunRecord, Restores RunRecord.ofJson? run.toJson run) ∧
    (∀ build : BuildRecord, Restores BuildRecord.ofJson? build.toJson build) ∧
    ∀ (extractor : Extractor) (disk after : Disk) (binary output : String) (functions skipped : Nat),
      extractor.extract disk binary = (after, .ok (.extracted functions skipped output)) →
        ∃ entries dump textSection loaded, extractor.Reads disk binary entries dump ∧
          dump.textSection = some textSection ∧ after.loadRecords output = .ok loaded ∧
          loaded.Equiv (extractor.select (.ofEntries extractor.nameFilter entries) textSection dump) ∧
          loaded.size = functions := by
  refine ⟨fun dump => ?dumps, fun records => ?maps, fun record => ?records, fun settings => ?settings,
    fun config => ?configs, fun run => ?runs, fun build => ?builds, ?extraction⟩
  case dumps => exact restores_of_plain dump.plain_toJson dump.ofJson?_toJson
  case maps => exact ⟨_, records.restores, records.equiv_ofPairs_toList⟩
  case records => exact restores_of_plain record.plain_toJson record.ofJson?_toJson
  case settings => exact restores_of_plain settings.plain_toJson settings.ofJson?_toJson
  case configs => exact restores_of_plain config.plain_toJson config.ofJson?_toJson
  case runs => exact restores_of_plain run.plain_toJson run.ofJson?_toJson
  case builds => exact restores_of_plain build.plain_toJson build.ofJson?_toJson
  case extraction => exact fun _ _ _ _ _ _ _ => Extractor.loadRecords_of_extracted

/-- From the file of the one function that is wanted, one record is loaded. -/
theorem loadRecords_singleDisk :
    ∃ after loaded,
      Extractor.standard.extract Extractor.singleDisk "prog" =
          (after, .ok (.extracted 1 0 "prog.json")) ∧
        after.loadRecords "prog.json" = .ok loaded ∧ loaded.size = 1 := by
  have ending : (Extractor.standard.extract Extractor.singleDisk "prog").2.toOption =
      some (.extracted 1 0 "prog.json") := by
    decide +kernel
  obtain ⟨after, run⟩ := Extractor.exists_extract_of_ending (eq_ok_of_toOption ending)
  obtain ⟨-, -, -, -, -, -, -, extraction⟩ := restores_stored
  obtain ⟨-, -, -, loaded, -, -, read, -, size⟩ := extraction _ _ _ _ _ _ _ run
  exact ⟨after, loaded, run, read, size⟩

end SymbolCorpus
