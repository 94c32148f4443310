import SymbolCorpus.Text.Cut

/-! # Arguments

Arguments are read from left to right into what was given: options with values, flags, and operands.
The first argument that does not fit is the error, unless help was asked for before it.
-/

namespace SymbolCorpus.Command

/-- What an option takes, and what it means. -/
inductive OptionKind where
  /-- Takes a value that fits, and is given at most once. -/
  | value (fits : String → Bool)
  /-- Takes nothing, and is given at most once. -/
  | flag
  /-- Takes nothing, and may be repeated. -/
  | count
  | help
  | version

structure OptionForm where
  /-- The name after two hyphens. -/
  name : String
  /-- The letter after one hyphen, when there is one. -/
  letter : Option Char
  kind : OptionKind

namespace OptionForm

def valued (name : String) : OptionForm := ⟨name, none, .value fun _ => true⟩

/-- An option without a value. -/
def flag (name : String) : OptionForm := ⟨name, none, .flag⟩

def common : List OptionForm :=
  [⟨"verbose", some 'v', .count⟩, ⟨"quiet", some 'q', .count⟩, ⟨"help", some 'h', .help⟩]

end OptionForm

/-- Why arguments do not fit. -/
inductive UsageError where
  | unknownOption (text : String)
  /-- The option takes no value. -/
  | unexpectedValue (name : String)
  /-- The option needs a value. -/
  | missingValue (name : String)
  /-- The option does not take this value. -/
  | unfitValue (name value : String)
  /-- The option was given before. -/
  | repeated (name : String)
  /-- No more operands are taken. -/
  | unexpectedOperand (text : String)
  /-- The option must be given. -/
  | missingOption (name : String)
  /-- An operand must be given. -/
  | missingOperand
  | unknownCommand (text : String)
  /-- A command must be given. -/
  | missingCommand
  deriving Repr, DecidableEq

/-- What is said of an error. -/
def UsageError.message : UsageError → String
  | unknownOption text => "unknown option '" ++ text ++ "'"
  | unexpectedValue name => "option '--" ++ name ++ "' takes no value"
  | missingValue name => "option '--" ++ name ++ "' needs a value"
  | unfitValue name value => "invalid value '" ++ value ++ "' for option '--" ++ name ++ "'"
  | repeated name => "option '--" ++ name ++ "' was given more than once"
  | unexpectedOperand text => "unexpected argument '" ++ text ++ "'"
  | missingOption name => "option '--" ++ name ++ "' is missing"
  | missingOperand => "an argument is missing"
  | unknownCommand text => "unknown command '" ++ text ++ "'"
  | missingCommand => "a command is missing"

/-- Why reading arguments ended early. -/
inductive Halt where
  | help
  | version
  /-- An argument does not fit. -/
  | usage (error : UsageError)
  deriving Repr, DecidableEq

structure Given where
  values : List (String × String)
  /-- The options without values. -/
  flags : List String
  operands : List String
  deriving Repr, DecidableEq

namespace Given

/-- Nothing was given. -/
def empty : Given := ⟨[], [], []⟩

def value? (given : Given) (name : String) : Option String :=
  (given.values.find? (·.1 == name)).map (·.2)

/-- The option was given. -/
def isSet (given : Given) (name : String) : Bool := given.flags.contains name

/-- The value of an option, once and fitting. -/
def setValue (given : Given) (name : String) (fits : String → Bool) (value : String) :
    Except Halt Given :=
  if (given.value? name).isSome then .error (.usage (.repeated name))
  else if fits value then .ok { given with values := given.values ++ [(name, value)] }
  else .error (.usage (.unfitValue name value))

/-- An option that takes no value here. -/
def setOption (given : Given) (option : OptionForm) : Except Halt Given :=
  match option.kind with
  | .value _ => .error (.usage (.missingValue option.name))
  | .flag =>
      if given.isSet option.name then .error (.usage (.repeated option.name))
      else .ok { given with flags := given.flags ++ [option.name] }
  | .count => .ok given
  | .help => .error .help
  | .version => .error .version

/-- Options of one letter each, written together. -/
def setLetters (options : List OptionForm) (given : Given) : List Char → Except Halt Given
  | [] => .ok given
  | c :: rest =>
      match options.find? (·.letter == some c) with
      | none => .error (.usage (.unknownOption ("-" ++ String.singleton c)))
      | some option => do
          let given ← given.setOption option
          setLetters options given rest

end Given

/-- An option that waits for its value. -/
structure Waiting where
  name : String
  /-- The values that it takes. -/
  fits : String → Bool

/-- An option by name, with a value after an equals sign or a value that is still to come. -/
def readNamed (options : List OptionForm) (given : Given) (text : List Char) :
    Except Halt (Given × Option Waiting) :=
  let (name, value) :=
    match Text.cutAt ['='] text with
    | some (name, value) => (name, some (String.ofList value))
    | none => (text, none)
  match options.find? (·.name.toList == name) with
  | none => .error (.usage (.unknownOption ("--" ++ String.ofList name)))
  | some option =>
      match option.kind, value with
      | .value fits, some value => (given.setValue option.name fits value).map (·, none)
      | .value fits, none => .ok (given, some ⟨option.name, fits⟩)
      | _, some _ => .error (.usage (.unexpectedValue option.name))
      | _, none => (given.setOption option).map (·, none)

/-- The argument is no value: it begins with a hyphen and is not a hyphen alone. -/
def isOption (argument : String) : Bool := argument.toList.head? == some '-' && argument ≠ "-"

/-- How a command takes arguments. -/
structure Form where
  name : String
  /-- Its options besides the common ones. -/
  options : List OptionForm
  /-- The greatest number of operands, when there is one. -/
  operandLimit : Option Nat

namespace Form

def allOptions (form : Form) : List OptionForm := form.options ++ OptionForm.common

/-- One operand more, if it is taken. -/
def addOperand (form : Form) (given : Given) (operand : String) : Except Halt Given :=
  if form.operandLimit.all (given.operands.length < ·) then
    .ok { given with operands := given.operands ++ [operand] }
  else .error (.usage (.unexpectedOperand operand))

/-- What arguments give, with what was given before them and the option that waits for its value.
After two hyphens everything is an operand. -/
def read (form : Form) : Given → Option Waiting → List String → Except Halt Given
  | given, none, [] => .ok given
  | _, some option, [] => .error (.usage (.missingValue option.name))
  | given, some option, argument :: rest =>
      if isOption argument then .error (.usage (.missingValue option.name))
      else do
        let given ← given.setValue option.name option.fits argument
        form.read given none rest
  | given, none, argument :: rest =>
      if argument = "--" then rest.foldlM form.addOperand given
      else if isOption argument then
        match argument.toList with
        | '-' :: '-' :: text => do
            let (given, waiting) ← readNamed form.allOptions given text
            form.read given waiting rest
        | letters => do
            let given ← given.setLetters form.allOptions (letters.drop 1)
            form.read given none rest
      else do
        let given ← form.addOperand given argument
        form.read given none rest

end Form

end SymbolCorpus.Command
