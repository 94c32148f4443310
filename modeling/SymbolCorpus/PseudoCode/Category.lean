/-! # Dialects and lexical categories

Pseudo-C comes in two dialects, which differ in their lexical rules and in how names are abstracted.
Every lexeme of either dialect has one of the categories below.
-/

namespace SymbolCorpus.PseudoCode

/-- Whose pseudo-C it is. -/
inductive Dialect where
  /-- A decompiler's: `sub_401000`, `v4`, `a1`, `_DWORD`; a call is lexed with its parenthesis. -/
  | decompiler
  /-- An analysis tool's: `var_18`, `rax_2`, `cond:0`; the first function named is the one defined. -/
  | analysisTool
  deriving Repr, DecidableEq

namespace Dialect

/-- The name of a dialect in settings and on the command line. -/
def name : Dialect → String
  | decompiler => "decompiler"
  | analysisTool => "analysis-tool"

def ofName? : String → Option Dialect
  | "decompiler" => some decompiler
  | "analysis-tool" => some analysisTool
  | _ => none

/-- A name is read back as its dialect. -/
@[simp] theorem ofName?_name (dialect : Dialect) : ofName? dialect.name = some dialect := by
  cases dialect <;> rfl

/-- What is said of a name that no dialect has. -/
def unknownMessage (text : String) : String :=
  "Unknown dialect '" ++ text ++ "' (expected 'decompiler' or 'analysis-tool')"

end Dialect

/-- The category of a lexeme. -/
inductive Category where
  /-- A placeholder that an earlier pass has put in. -/
  | placeholder
  /-- White space, and a backslash before a newline. -/
  | whitespace
  /-- A comment or a preprocessor line. -/
  | comment
  /-- A string or character literal. -/
  | string
  /-- A numeric literal. -/
  | number
  | operator
  /-- The double colon that qualifies a name. -/
  | scopeOperator
  /-- A bracket, comma, semicolon or point. -/
  | punctuation
  | keyword
  /-- The name of a built-in type. -/
  | keywordType
  | nameFunction
  | identifier
  | nameVariable
  | nameRegister
  | nameLabel
  | nameCondition
  /-- A single character that nothing else claims. -/
  | other
  deriving Repr, DecidableEq

namespace Category

/-- The name of a category in lists of lexemes. -/
def label : Category → String
  | placeholder => "placeholder"
  | whitespace => "whitespace"
  | comment => "comment"
  | string => "string"
  | number => "number"
  | operator => "operator"
  | scopeOperator => "scope_operator"
  | punctuation => "punctuation"
  | keyword => "keyword"
  | keywordType => "keyword_type"
  | nameFunction => "name_function"
  | identifier => "name"
  | nameVariable => "name_variable"
  | nameRegister => "name_register"
  | nameLabel => "name_label"
  | nameCondition => "name_condition"
  | other => "other"

def all : List Category :=
  [placeholder, whitespace, comment, string, number, operator, scopeOperator, punctuation, keyword,
    keywordType, nameFunction, identifier, nameVariable, nameRegister, nameLabel, nameCondition,
    other]

/-- The name of a category in messages. -/
def title : Category → String
  | placeholder => "Placeholder"
  | whitespace => "Whitespace"
  | comment => "Comment"
  | string => "String"
  | number => "Number"
  | operator => "Operator"
  | scopeOperator => "ScopeOperator"
  | punctuation => "Punctuation"
  | keyword => "Keyword"
  | keywordType => "KeywordType"
  | nameFunction => "NameFunction"
  | identifier => "Name"
  | nameVariable => "NameVariable"
  | nameRegister => "NameRegister"
  | nameLabel => "NameLabel"
  | nameCondition => "NameCondition"
  | other => "Other"

end Category

end SymbolCorpus.PseudoCode
