import SymbolCorpus.Command.Request
import SymbolCorpus.Command.Session
import SymbolCorpus.Json.Writer
import SymbolCorpus.PseudoCode.Mask

/-! # Segmenting and tokenizing on the command line -/

namespace SymbolCorpus.Command

def loadSegmenter (root : String) (settings : Settings) : Action Identifier.Segmenter := do
  let disk ← Action.disk
  Action.orFail (settings.loadSegmenter disk root) .model

def segmentedToJson (segmenter : Identifier.Segmenter) (name : String) : Json :=
  .ofFields
    [("name", .text name),
      ("tokens", .ofList (fun piece => .string (some piece)) (segmenter.segment name.toList))]

def segmentedLine (segmenter : Identifier.Segmenter) (name : String) : String :=
  name ++ "\t" ++ String.ofList (segmenter.display name.toList)

/-- Segments names, one a line or as one document. -/
def segment (root : String) (config : Option String) (json : Bool) (names : List String) :
    Action Unit := do
  let (root, settings) ← resolveSettings root config
  let segmenter ← loadSegmenter root settings
  if json then Action.print (Json.ofList (segmentedToJson segmenter) names).pretty
  else Action.printAll (names.map (segmentedLine segmenter))

/-- The pseudo-C of a file, or of standard input for a hyphen. -/
def readSource (file : String) : Action (List Char) := do
  let session ← get
  if file = "-" then
    match Text.ofOctets? session.input with
    | some text => pure text
    | none => throw .unreadableInput
  else Action.orFail (session.disk.readText file) (.unreadableSource file)

/-- How tokens are abstracted by settings and a request together. A request can only take away. -/
def TokenizeRequest.options (request : TokenizeRequest) (settings : Settings) :
    PseudoCode.TokenOptions :=
  { dialect := request.dialect.getD settings.dialect
    keepStrings := settings.keepStrings && !request.noStrings
    keepCalls := settings.keepCalls && !request.noCalls }

/-- Tokenizes pseudo-C and prints the tokens in one line. -/
def tokenize (request : TokenizeRequest) : Action Unit := do
  let (root, settings) ← resolveSettings request.root request.config
  let segmenter ← loadSegmenter root settings
  let text ← readSource request.file
  let source :=
    match request.mask with
    | some name => PseudoCode.mask name.toList text
    | none => text
  let tokens ← Action.orFail (PseudoCode.tokenize segmenter (request.options settings) source)
    (.untokenizable request.file)
  Action.print (String.ofList (SymbolCorpus.Text.joinWith [' '] tokens))

end SymbolCorpus.Command
