import SymbolCorpus.Text.Cut

/-! # C++ signatures

A demangled name is a signature: scopes, template arguments, parameters, perhaps a return type. Its
method name is what is left when bracketed parts are taken out from the inside outwards and the last
component is looked at.
-/

namespace SymbolCorpus

/-- An opening and a closing character. -/
structure Brackets where
  opening : Char
  closing : Char
  deriving Repr, DecidableEq

namespace Brackets

/-- Around template arguments. -/
def angle : Brackets := ⟨'<', '>'⟩

/-- Around parameters. -/
def round : Brackets := ⟨'(', ')'⟩

/-- Around notes. -/
def square : Brackets := ⟨'[', ']'⟩

/-- Around notes that begin with a grave accent and end with an apostrophe. -/
def grave : Brackets := ⟨'\x60', '\''⟩

/-- What follows the closing character, when it comes before another opening one. -/
def afterClosing? (brackets : Brackets) : List Char → Option (List Char)
  | [] => none
  | c :: rest =>
      if c = brackets.closing then some rest
      else if c = brackets.opening then none
      else brackets.afterClosing? rest

/-- What follows a closing character is shorter than the text. -/
theorem length_afterClosing?_lt (brackets : Brackets) {text after : List Char}
    (h : brackets.afterClosing? text = some after) : after.length < text.length := by
  induction text with
  | nil => simp [afterClosing?] at h
  | cons c rest ih =>
      simp only [afterClosing?] at h
      split at h
      · simp only [Option.some.injEq] at h
        simp [h]
      · split at h
        · simp at h
        · have := ih h
          simp only [List.length_cons]
          omega

/-- The text without its innermost bracketed parts. -/
def stripInnermost (brackets : Brackets) (text : List Char) : List Char :=
  match text with
  | [] => []
  | c :: rest =>
      if c = brackets.opening then
        match _h : brackets.afterClosing? rest with
        | some after => brackets.stripInnermost after
        | none => c :: brackets.stripInnermost rest
      else c :: brackets.stripInnermost rest
termination_by text.length
decreasing_by
  · have := length_afterClosing?_lt brackets _h
    simp only [List.length_cons]
    omega
  · simp
  · simp

/-- The text without its bracketed parts, taken out from the inside outwards until none is left.
Brackets without a partner stay. -/
def strip (brackets : Brackets) (text : List Char) : List Char :=
  let stripped := brackets.stripInnermost text
  if stripped.length < text.length then brackets.strip stripped else text
termination_by text.length

end Brackets

/-- The name has both an opening and a closing parenthesis. -/
def isSignature (name : List Char) : Bool := name.contains '(' && name.contains ')'

/-- The text up to and with its last closing parenthesis, unless a colon comes after that. -/
def upToParameters? (signature : List Char) : Option (List Char) :=
  let tail := (signature.reverse.takeWhile (· ≠ ')')).reverse
  if !signature.contains ')' || tail.contains ':' then none
  else some (signature.take (signature.length - tail.length))

/-- The text without parts in brackets of any kind. -/
def stripBrackets (text : List Char) : List Char :=
  Brackets.grave.strip (Brackets.square.strip (Brackets.round.strip (Brackets.angle.strip text)))

/-- The first word after the last double colon, or the last word when there is no double colon. Words
have one space between them. -/
def lastComponent (text : List Char) : List Char :=
  match Text.cutAtLast "::".toList text with
  | some (_, last) => last.takeWhile (· ≠ ' ')
  | none => (text.reverse.takeWhile (· ≠ ' ')).reverse

/-- The name without stars at its end and without one tilde at its start. -/
def bareName (name : List Char) : List Char :=
  match (name.reverse.dropWhile (· = '*')).reverse with
  | '~' :: rest => rest
  | bare => bare

/-- The method name of a signature; none when no parameters end it or no letter is left. -/
def methodName? (signature : List Char) : Option (List Char) := do
  let head ← upToParameters? signature
  let component := lastComponent (stripBrackets head)
  if component.any Text.isAlphabetic then some (bareName component) else none

end SymbolCorpus
