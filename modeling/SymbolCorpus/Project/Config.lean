import SymbolCorpus.Project.Layout
import SymbolCorpus.Project.Settings

/-! # Description of a project -/

namespace SymbolCorpus

/-- What is written down about a project. -/
structure ProjectConfig where
  name : String
  description : Option String
  /-- The version of this form of description. -/
  version : String
  ledgerPath : String
  settings : Settings
  deriving Repr, DecidableEq

namespace ProjectConfig

/-- The version of descriptions that are written now. -/
def currentVersion : String := "0.1.0"

def new (name ledgerPath : String) : ProjectConfig :=
  ⟨name, none, currentVersion, ledgerPath, .standard⟩

/-- The description as a document. -/
def toJson (config : ProjectConfig) : Json :=
  .ofFields
    [("name", .text config.name), ("description", .ofOption .text config.description),
      ("config_version", .text config.version),
      ("db", .ofFields [("path", .text config.ledgerPath)]),
      ("pipeline", config.settings.toJson)]

def ledgerPathOfJson? (value : Json) : Option String := do
  let fields ← value.asRecord? ["path"]
  fields.required? "path" Json.asText?

/-- The description of a document. -/
def ofJson? (value : Json) : Option ProjectConfig := do
  let fields ← value.asRecord? ["name", "description", "config_version", "db", "pipeline"]
  let name ← fields.required? "name" Json.asText?
  let description ← fields.nullable? "description" Json.asText?
  let version ← fields.required? "config_version" Json.asText?
  let ledgerPath ← fields.required? "db" ledgerPathOfJson?
  let settings ← fields.withDefault? "pipeline" .standard Settings.ofJson?
  pure ⟨name, description, version, ledgerPath, settings⟩

end ProjectConfig

end SymbolCorpus
