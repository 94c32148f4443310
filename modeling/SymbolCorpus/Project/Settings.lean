import SymbolCorpus.Json.Fields
import SymbolCorpus.PseudoCode.Token
import SymbolCorpus.Yaml.Value

/-! # Settings

Everything that can be chosen about abstraction, tokens, names and the analysis host. Settings are
written as JSON and read from JSON or YAML; what is left out has its standard value.
-/

namespace SymbolCorpus

/-- What can be chosen. -/
structure Settings where
  /-- Whose pseudo-C is read. -/
  dialect : PseudoCode.Dialect
  keepStrings : Bool
  /-- Names of called functions are shown. -/
  keepCalls : Bool
  /-- Numbers above it become placeholders. -/
  threshold : Int64
  subwordVocabulary : Option String
  wordList : Option String
  blocklist : Option String
  /-- Names that say nothing are left out. -/
  filterMeaningless : Bool
  /-- Signatures are reduced to their method names. -/
  methodNames : Bool
  /-- The name of the analysis host. -/
  host : String
  deriving Repr, DecidableEq

namespace Settings

def standardHost : String := "json-dump"

def standard : Settings :=
  ⟨.decompiler, true, true, 0, none, none, none, true, true, standardHost⟩

/-- How tokens are abstracted. -/
def tokenOptions (settings : Settings) : PseudoCode.TokenOptions :=
  ⟨settings.dialect, settings.keepStrings, settings.keepCalls⟩

/-- The names of the fields, in order. -/
def fieldNames : List String :=
  ["dialect", "keep_strings", "keep_calls", "numeric_threshold", "subword_vocab", "word_list",
    "blocklist", "filter_meaningless", "method_names", "host"]

/-- A field that is left out when it is absent. -/
def optionalField (name : String) (value : Option String) : List (String × Json) :=
  match value with
  | some text => [(name, .text text)]
  | none => []

def toJson (settings : Settings) : Json :=
  .ofFields
    ([("dialect", .text settings.dialect.name), ("keep_strings", .bool settings.keepStrings),
        ("keep_calls", .bool settings.keepCalls),
        ("numeric_threshold", .ofInt settings.threshold.toInt)] ++
      optionalField "subword_vocab" settings.subwordVocabulary ++
      optionalField "word_list" settings.wordList ++
      optionalField "blocklist" settings.blocklist ++
      [("filter_meaningless", .bool settings.filterMeaningless),
        ("method_names", .bool settings.methodNames), ("host", .text settings.host)])

def ofJson? (value : Json) : Option Settings := do
  let fields ← value.asRecord? fieldNames
  let named := Json.asNamed? PseudoCode.Dialect.ofName?
  let path := Json.asOption? Json.asText?
  let dialect ← fields.withDefault? "dialect" standard.dialect named
  let keepStrings ← fields.withDefault? "keep_strings" standard.keepStrings Json.asBool?
  let keepCalls ← fields.withDefault? "keep_calls" standard.keepCalls Json.asBool?
  let threshold ← fields.withDefault? "numeric_threshold" standard.threshold Json.asInt64?
  let subwordVocabulary ← fields.withDefault? "subword_vocab" none path
  let wordList ← fields.withDefault? "word_list" none path
  let blocklist ← fields.withDefault? "blocklist" none path
  let filterMeaningless ←
    fields.withDefault? "filter_meaningless" standard.filterMeaningless Json.asBool?
  let methodNames ← fields.withDefault? "method_names" standard.methodNames Json.asBool?
  let host ← fields.withDefault? "host" standard.host Json.asText?
  pure ⟨dialect, keepStrings, keepCalls, threshold, subwordVocabulary, wordList, blocklist,
    filterMeaningless, methodNames, host⟩

def ofYaml? (value : Yaml) : Option Settings := do
  let fields ← value.asRecord? fieldNames
  let named := Yaml.asNamed? PseudoCode.Dialect.ofName?
  let path := Yaml.asOption? Yaml.asText?
  let dialect ← Yaml.withDefault? fields "dialect" standard.dialect named
  let keepStrings ← Yaml.withDefault? fields "keep_strings" standard.keepStrings Yaml.asBool?
  let keepCalls ← Yaml.withDefault? fields "keep_calls" standard.keepCalls Yaml.asBool?
  let threshold ← Yaml.withDefault? fields "numeric_threshold" standard.threshold Yaml.asInt64?
  let subwordVocabulary ← Yaml.withDefault? fields "subword_vocab" none path
  let wordList ← Yaml.withDefault? fields "word_list" none path
  let blocklist ← Yaml.withDefault? fields "blocklist" none path
  let filterMeaningless ←
    Yaml.withDefault? fields "filter_meaningless" standard.filterMeaningless Yaml.asBool?
  let methodNames ← Yaml.withDefault? fields "method_names" standard.methodNames Yaml.asBool?
  let host ← Yaml.withDefault? fields "host" standard.host Yaml.asText?
  pure ⟨dialect, keepStrings, keepCalls, threshold, subwordVocabulary, wordList, blocklist,
    filterMeaningless, methodNames, host⟩

end Settings

end SymbolCorpus
