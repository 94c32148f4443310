import SymbolCorpus.Identifier.Segmenter
import SymbolCorpus.Json.Fields
import SymbolCorpus.PseudoCode.Lexeme

/-! # Tokens of pseudo-C

The lexemes of a function become the tokens of a bounded vocabulary. Blanks and comments vanish,
numbers and generated names become placeholders, and other names are segmented. String literals that
follow one another directly form one token.

Which name an analysis tool's text defines is known from its first function name on; that is the only
state that a rendering carries along.
-/

namespace SymbolCorpus.PseudoCode

open Identifier

def functionPlaceholder : List Char := "<FUNCTION>".toList

def numberPlaceholder : List Char := "<Number>".toList

def stringPlaceholder : List Char := "<STRING>".toList

def variablePlaceholder : List Char := "<VARIBLE>".toList

def labelPlaceholder : List Char := "<LABEL>".toList

def conditionPlaceholder : List Char := "<CONDITION>".toList

/-- What is abstracted, and how. -/
structure TokenOptions where
  /-- Whose pseudo-C it is. -/
  dialect : Dialect
  /-- Strings are shown; otherwise each becomes a placeholder. -/
  keepStrings : Bool
  /-- Names of called functions are shown; otherwise each becomes a placeholder. -/
  keepCalls : Bool
  deriving Repr, DecidableEq

namespace TokenOptions

/-- The decompiler's dialect with strings and calls shown. -/
def standard : TokenOptions := ⟨.decompiler, true, true⟩

def toJson (options : TokenOptions) : Json :=
  .ofFields
    [("dialect", .text options.dialect.name), ("keep_strings", .bool options.keepStrings),
      ("keep_calls", .bool options.keepCalls)]

/-- The options of a document; what is left out has its standard value. -/
def ofJson? (value : Json) : Option TokenOptions := do
  let fields ← value.asRecord? ["dialect", "keep_strings", "keep_calls"]
  let dialect ← fields.withDefault? "dialect" standard.dialect (Json.asNamed? Dialect.ofName?)
  let keepStrings ← fields.withDefault? "keep_strings" standard.keepStrings Json.asBool?
  let keepCalls ← fields.withDefault? "keep_calls" standard.keepCalls Json.asBool?
  pure ⟨dialect, keepStrings, keepCalls⟩

end TokenOptions

/-- A lexeme, or string literals that follow one another directly, joined. -/
inductive Fragment where
  /-- The joined texts of one string literal or more. -/
  | literal (text : List Char)
  | single (lexeme : Lexeme)
  deriving Repr, DecidableEq

/-- The fragments of a list of lexemes: a string literal is joined with a literal directly after it. -/
def fragments : List Lexeme → List Fragment
  | [] => []
  | lexeme :: rest =>
      if lexeme.category = .string then
        match fragments rest with
        | .literal text :: later => .literal (lexeme.text ++ text) :: later
        | later => .literal lexeme.text :: later
      else .single lexeme :: fragments rest

/-- A literal without its first and last character; nothing when it has no two characters. -/
def literalBody (text : List Char) : List Char := (text.drop 1).dropLast

def renderLiteral (options : TokenOptions) (text : List Char) : List Char :=
  if options.keepStrings then
    "\" ".toList ++ (literalBody text).map (fun c => if c = '_' then ' ' else c) ++ " \"".toList
  else stringPlaceholder

/-- A call of a decompiler's text: the name, and whether a parenthesis ends it. -/
def callParts (text : List Char) : List Char × Bool :=
  if text.getLast? = some '(' then (text.dropLast, true) else (text, false)

/-- The token of a function name in a decompiler's text. A call keeps its parenthesis, which a name
that stands for no name loses to its placeholder. -/
def renderCall (segmenter : Segmenter) (options : TokenOptions) (text : List Char) : List Char :=
  let (name, isCall) := callParts text
  if isAnonymous name then functionPlaceholder
  else if !options.keepCalls then functionPlaceholder ++ " (".toList
  else
    let shown := segmenter.display name
    if isCall then if shown.isEmpty then ['('] else shown ++ " (".toList
    else shown

/-- The token of a function name in an analysis tool's text, given the name defined so far, and the
name defined from then on. -/
def renderFunction (segmenter : Segmenter) (options : TokenOptions) (defined : Option (List Char))
    (name : List Char) : List Char × Option (List Char) :=
  match defined with
  | none => (functionPlaceholder, some name)
  | some definition =>
      if definition = name || isAnonymous name || !options.keepCalls then
        (functionPlaceholder, defined)
      else (segmenter.display name, defined)

/-- A name that a decompiler made up for an argument or a local variable, or that looks like one. -/
def isSynthetic (name : List Char) : Bool :=
  match name with
  | c :: _ => c = 'a' || c = 'v'
  | [] => false

/-- The token of a lexeme that is no string, none when it vanishes, with the name defined from then
on. -/
def renderLexeme (segmenter : Segmenter) (options : TokenOptions) (defined : Option (List Char))
    (lexeme : Lexeme) : Except TokenizeError (Option (List Char) × Option (List Char)) :=
  let text := lexeme.text
  let shown (token : List Char) := Except.ok (some token, defined)
  match lexeme.category, options.dialect with
  | .string, _ | .whitespace, _ | .comment, _ | .scopeOperator, _ => .ok (none, defined)
  | .placeholder, _ => shown text
  | .number, _ => shown (if text = ['0'] then text else numberPlaceholder)
  | .nameFunction, .decompiler => shown (renderCall segmenter options text)
  | .nameFunction, .analysisTool =>
      let (token, definition) := renderFunction segmenter options defined text
      .ok (some token, definition)
  | .identifier, .decompiler => shown (if isSynthetic text then text else segmenter.display text)
  | .identifier, .analysisTool =>
      shown (if defined = some text then functionPlaceholder else segmenter.display text)
  | .nameVariable, .analysisTool => shown variablePlaceholder
  | .nameRegister, .analysisTool => shown (text.takeWhile (· ≠ '_'))
  | .nameLabel, .analysisTool => shown labelPlaceholder
  | .nameCondition, .analysisTool => shown conditionPlaceholder
  | .keyword, _ | .keywordType, _ | .operator, _ | .punctuation, _ | .other, _ =>
      shown (Text.trim text)
  | category, dialect => .error (.unrecognized dialect category text)

/-- A token is kept unless it is empty. -/
def keepToken (token : Option (List Char)) (tokens : List (List Char)) : List (List Char) :=
  match token with
  | some text => if text.isEmpty then tokens else text :: tokens
  | none => tokens

/-- The tokens of fragments, given the name defined so far. -/
def renderFragments (segmenter : Segmenter) (options : TokenOptions) :
    Option (List Char) → List Fragment → Except TokenizeError (List (List Char))
  | _, [] => .ok []
  | defined, .literal text :: rest => do
      let tokens ← renderFragments segmenter options defined rest
      pure (renderLiteral options text :: tokens)
  | defined, .single lexeme :: rest => do
      let (token, definition) ← renderLexeme segmenter options defined lexeme
      let tokens ← renderFragments segmenter options definition rest
      pure (keepToken token tokens)

def tokenize (segmenter : Segmenter) (options : TokenOptions) (text : List Char) :
    Except TokenizeError (List (List Char)) := do
  let lexemes ← lex options.dialect text
  renderFragments segmenter options none (fragments lexemes)

end SymbolCorpus.PseudoCode
