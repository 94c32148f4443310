import SymbolCorpus.PseudoCode.Rule
import SymbolCorpus.Text.Cut
import SymbolCorpus.Text.Quoted

/-! # Lexemes

A text is cut into lexemes from left to right: at each place the first rule that takes a character or
more decides the category and the length.
-/

namespace SymbolCorpus.PseudoCode

/-- Why a text has no tokens. -/
inductive TokenizeError where
  /-- A lexeme whose category the dialect has no token for. -/
  | unrecognized (dialect : Dialect) (category : Category) (text : List Char)
  /-- No rule takes a character at this offset. -/
  | unlexable (offset : Nat) (text : List Char)
  deriving Repr, DecidableEq

/-- What is said of an error. -/
def TokenizeError.message : TokenizeError → String
  | unrecognized dialect category text =>
      "Unrecognized token category " ++ category.title ++ " in " ++ dialect.name ++ " source: " ++
        String.ofList (Text.quote text)
  | unlexable offset text =>
      "No lexer rule matches at offset " ++ toString offset ++ ": " ++
        String.ofList (Text.quote text)

/-- A part of a text with its category. -/
structure Lexeme where
  /-- What kind of part it is. -/
  category : Category
  text : List Char
  /-- The number of octets before it. -/
  offset : Nat
  deriving Repr, DecidableEq

/-- The category and length of what the first rule that applies takes. -/
def firstMatch : List Rule → List Char → Option (Category × Nat)
  | [], _ => none
  | rule :: rules, text =>
      let length := rule.length text
      if 0 < length then some (rule.category, length) else firstMatch rules text

/-- A rule that applies takes a character or more. -/
theorem firstMatch_pos {rules : List Rule} {text : List Char} {category : Category} {length : Nat}
    (h : firstMatch rules text = some (category, length)) : 0 < length := by
  induction rules with
  | nil => simp [firstMatch] at h
  | cons rule rules ih =>
      simp only [firstMatch] at h
      split at h
      · next positive =>
          simp only [Option.some.injEq, Prod.mk.injEq] at h
          exact h.2 ▸ positive
      · exact ih h

/-- The lexemes of a text that starts at an offset. -/
def lexFrom (rules : List Rule) (offset : Nat) (text : List Char) :
    Except TokenizeError (List Lexeme) :=
  match text with
  | [] => .ok []
  | c :: rest =>
      match _h : firstMatch rules (c :: rest) with
      | none => .error (.unlexable offset [c])
      | some (category, length) =>
          let taken := (c :: rest).take length
          (lexFrom rules (offset + Text.utf8Length taken) ((c :: rest).drop length)).map
            (⟨category, taken, offset⟩ :: ·)
termination_by text.length
decreasing_by
  have positive := firstMatch_pos _h
  simp only [List.length_drop, List.length_cons]
  omega

def lex (dialect : Dialect) (text : List Char) : Except TokenizeError (List Lexeme) :=
  lexFrom dialect.rules 0 text

end SymbolCorpus.PseudoCode
