import SymbolCorpus.Command.Arguments
import SymbolCorpus.PseudoCode.Category

/-! # Requests

What a command line asks for. Every command works on a project root, by default the folder from which
relative paths start.
-/

namespace SymbolCorpus.Command

/-- What to tokenize, and how. -/
structure TokenizeRequest where
  root : String
  /-- A file of settings to be used instead of the project's. -/
  config : Option String
  /-- The file of pseudo-C, or a hyphen for standard input. -/
  file : String
  /-- A dialect to be used instead of that of the settings. -/
  dialect : Option PseudoCode.Dialect
  /-- Strings become placeholders whatever the settings say. -/
  noStrings : Bool
  /-- Names of called functions become placeholders whatever the settings say. -/
  noCalls : Bool
  /-- A name to be masked first. -/
  mask : Option String
  deriving Repr, DecidableEq

/-- What to build a corpus from, and where. -/
structure BuildRequest where
  root : String
  /-- The folder of the records, when it is not the project's. -/
  records : Option String
  split : String
  /-- The folder of the corpus files, when it is not the project's. -/
  out : Option String
  /-- Repeated pairs are dropped. -/
  dedup : Bool
  deriving Repr, DecidableEq

/-- What a command line asks for. -/
inductive Request where
  | initProject (root : String) (name : Option String)
  /-- Tell about a project, in JSON or in words. -/
  | projectInfo (root : String) (json : Bool)
  | segment (root : String) (config : Option String) (json : Bool) (names : List String)
  /-- Tokenize pseudo-C. -/
  | tokenize (request : TokenizeRequest)
  | extract (root : String) (force : Bool) (binaries : List String)
  | buildCorpus (request : BuildRequest)
  /-- List extraction runs, all or those of one binary. -/
  | listRuns (root : String) (json : Bool) (binary : Option String)
  deriving Repr, DecidableEq

/-! ## Forms of the commands -/

def rootOption : OptionForm := .valued "root"

def namesDialect (text : String) : Bool := (PseudoCode.Dialect.ofName? text).isSome

/-- How the commands take arguments. -/
def forms : List Form :=
  [⟨"init-project", [rootOption, .valued "name"], some 0⟩,
    ⟨"project-info", [rootOption, .flag "json"], some 0⟩,
    ⟨"segment", [rootOption, .valued "config", .flag "json"], none⟩,
    ⟨"tokenize",
      [rootOption, .valued "config", ⟨"dialect", none, .value namesDialect⟩, .flag "no-strings",
        .flag "no-calls", .valued "mask"], some 1⟩,
    ⟨"extract", [rootOption, .flag "force"], none⟩,
    ⟨"build-corpus",
      [rootOption, .valued "records", .valued "split", .valued "out", .flag "dedup"], some 0⟩,
    ⟨"list-runs", [rootOption, .flag "json", .valued "binary"], some 0⟩]

def form? (name : String) : Option Form := forms.find? (·.name == name)

/-! ## From arguments to a request -/

namespace Given

/-- The project root. -/
def root (given : Given) : String := (given.value? "root").getD "."

/-- The value of an option that must be given. -/
def required (given : Given) (name : String) : Except Halt String :=
  match given.value? name with
  | some value => .ok value
  | none => .error (.usage (.missingOption name))

/-- The operands, of which there must be one at least. -/
def someOperands (given : Given) : Except Halt (List String) :=
  if given.operands.isEmpty then .error (.usage .missingOperand) else .ok given.operands

/-- The first operand, which must be given. -/
def firstOperand (given : Given) : Except Halt String :=
  match given.operands with
  | operand :: _ => .ok operand
  | [] => .error (.usage .missingOperand)

def toRequest (given : Given) : (name : String) → Except Halt Request
  | "init-project" => .ok (.initProject given.root (given.value? "name"))
  | "project-info" => .ok (.projectInfo given.root (given.isSet "json"))
  | "segment" => do
      let names ← given.someOperands
      pure (.segment given.root (given.value? "config") (given.isSet "json") names)
  | "tokenize" => do
      let file ← given.firstOperand
      pure <| .tokenize
        { root := given.root
          config := given.value? "config"
          file
          dialect := (given.value? "dialect").bind PseudoCode.Dialect.ofName?
          noStrings := given.isSet "no-strings"
          noCalls := given.isSet "no-calls"
          mask := given.value? "mask" }
  | "extract" => do
      let binaries ← given.someOperands
      pure (.extract given.root (given.isSet "force") binaries)
  | "build-corpus" => do
      let split ← given.required "split"
      pure <| .buildCorpus
        { root := given.root
          records := given.value? "records"
          split
          out := given.value? "out"
          dedup := given.isSet "dedup" }
  | "list-runs" => .ok (.listRuns given.root (given.isSet "json") (given.value? "binary"))
  | name => .error (.usage (.unknownCommand name))

end Given

def outerOptions : List OptionForm := ⟨"version", some 'V', .version⟩ :: OptionForm.common

/-- What a request for help with some words leads to: help with a command, if they name one. -/
def readHelp : List String → Halt
  | [] => .help
  | name :: rest =>
      if name ≠ "help" && (form? name).isNone then .usage (.unknownCommand name)
      else
        match rest with
        | [] => .help
        | word :: _ => .usage (.unknownCommand word)

def Request.ofArguments : List String → Except Halt Request
  | [] => .error (.usage .missingCommand)
  | argument :: rest =>
      if argument = "--" then .error (.usage .missingCommand)
      else if isOption argument then
        match argument.toList with
        | '-' :: '-' :: text => do
            let _ ← readNamed outerOptions .empty text
            ofArguments rest
        | letters => do
            let _ ← Given.empty.setLetters outerOptions (letters.drop 1)
            ofArguments rest
      else if argument = "help" then .error (readHelp rest)
      else
        match form? argument with
        | none => .error (.usage (.unknownCommand argument))
        | some form => do
            let given ← form.read .empty none rest
            given.toRequest form.name

end SymbolCorpus.Command
