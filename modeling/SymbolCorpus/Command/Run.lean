import SymbolCorpus.Command.Build
import SymbolCorpus.Command.Extract
import SymbolCorpus.Command.Text

/-! # Running a command line -/

namespace SymbolCorpus.Command

/-- Does what a request asks for. -/
def Request.run : Request → Action Unit
  | .initProject root name => Command.initProject root name
  | .projectInfo root json => Command.projectInfo root json
  | .segment root config json names => Command.segment root config json names
  | .tokenize request => Command.tokenize request
  | .extract root force binaries => Command.extract root force binaries
  | .buildCorpus request => Command.buildCorpus request
  | .listRuns root json binary => Command.listRuns root json binary

/-- How a command line ended. -/
inductive Ending where
  | done
  | failed (error : CommandError)
  | misused (error : UsageError)
  deriving DecidableEq

def Ending.exitCode : Ending → Nat
  | done => 0
  | failed _ => 1
  | misused _ => 2

/-- The version of the program. -/
def version : String := "0.1.0"

/-- The text of help. -/
def helpLines : List String :=
  ["Build (code, function name) corpora from binary-analysis output", "",
    "Usage: namecorpus [OPTIONS] <COMMAND>", "", "Commands:"] ++
    forms.map (fun form => "  " ++ form.name) ++
    ["", "Options: -v, --verbose; -q, --quiet; -h, --help; -V, --version"]

def Session.printed (session : Session) (lines : List String) : Session :=
  { session with lines := session.lines ++ lines.toArray }

def runArguments (arguments : List String) (session : Session) : Ending × Session :=
  match Request.ofArguments arguments with
  | .error .help => (.done, session.printed helpLines)
  | .error .version => (.done, session.printed ["namecorpus " ++ version])
  | .error (.usage error) => (.misused error, session)
  | .ok request =>
      match request.run.run session with
      | (.ok (), session) => (.done, session)
      | (.error error, session) => (.failed error, session)

end SymbolCorpus.Command
