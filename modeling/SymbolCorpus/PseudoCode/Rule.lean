import SymbolCorpus.PseudoCode.Category
import SymbolCorpus.Text.CharClass

/-! # Lexical rules

A rule pairs a category with a recogniser, which says how many characters at the start of a text the
rule takes; zero means that it does not apply. The rules of a dialect are tried in order and the first
that applies wins.

A recogniser for names, keywords and types always looks at the whole run of word characters at the
start of the text, so it never takes a part of a longer word.
-/

namespace SymbolCorpus.PseudoCode

open Text

/-- How many characters at the start of a text are taken; zero for none. -/
abbrev Recogniser := List Char → Nat

/-- A category and its recogniser. -/
structure Rule where
  /-- The category of what the recogniser takes. -/
  category : Category
  length : Recogniser

/-! ## Words -/

def wordRun (text : List Char) : List Char := text.takeWhile isWord

/-- The whole run of word characters, when it satisfies a test. -/
def wholeWord (accepts : List Char → Bool) : Recogniser := fun text =>
  let word := wordRun text
  if accepts word then word.length else 0

/-- The part of a word after a stem, when it begins with the stem. -/
def afterStem? (stem word : List Char) : Option (List Char) := stem.isPrefixOf? word

/-- The word is the stem with at least one more character, all of which satisfy a test. -/
def isStemWith (stem : List Char) (test : Char → Bool) (word : List Char) : Bool :=
  match afterStem? stem word with
  | some rest => !rest.isEmpty && rest.all test
  | none => false

/-- The word is the stem with any number of decimal digits. -/
def isStemWithDigits (stem word : List Char) : Bool :=
  match afterStem? stem word with
  | some rest => rest.all isDecimal
  | none => false

/-- The word without one low line at its start. -/
def dropUnderscore : List Char → List Char
  | '_' :: rest => rest
  | word => word

/-- A word that starts with something else than a digit. -/
def isName : List Char → Bool
  | c :: _ => !isDecimal c
  | [] => false

/-- A name at the start of a text. -/
def nameLength : Recogniser := wholeWord isName

/-- A name with an opening parenthesis directly after it, which is taken as well. -/
def callLength : Recogniser := fun text =>
  let length := nameLength text
  match text.drop length with
  | '(' :: _ => if length = 0 then 0 else length + 1
  | _ => 0

/-- A name that an opening parenthesis follows, perhaps after white space; only the name is taken. -/
def calledNameLength : Recogniser := fun text =>
  let length := nameLength text
  match (text.drop length).dropWhile isBlank with
  | '(' :: _ => length
  | _ => 0

/-- The name that a decompiler gives to a function without a name. -/
def isSubroutine (word : List Char) : Bool := isStemWith "sub_".toList isUpperHexDigit word

/-- A sized type of a decompiler: `_DWORD`, `LOWORD`, `HIBYTE`, `BYTE1`, `LONGLONG` and the like. -/
def isSizedType (word : List Char) : Bool :=
  let stem := dropUnderscore word
  ["WORD", "QWORD", "DWORD", "OWORD", "LOWORD", "HIWORD", "BYTE", "LOBYTE", "HIBYTE", "TBYTE"].any
      (fun size => isStemWithDigits size.toList stem) ||
    stem == "LONG".toList || stem == "LONGLONG".toList

/-- A truth value of a given size, or the unknown type of a decompiler. -/
def isOpaqueType (word : List Char) : Bool :=
  ["_BOOL1", "_BOOL2", "_BOOL4", "_BOOL8", "_UNKNOWN"].any (fun type => type.toList == word)

/-- An integer type of a given width, signed or not. -/
def isWidthType (word : List Char) : Bool :=
  let unsigned := match word with
    | 'u' :: rest => rest
    | word => word
  match afterStem? "int".toList unsigned with
  | some rest => rest.dropWhile isDecimal == ['_', 't']
  | none => false

/-- A small letter from a to z or a digit from 0 to 9. -/
def isRegisterChar (c : Char) : Bool := c.isLower || c.isDigit

/-- The end of a register's word: a low line and a number. -/
def isVersion : List Char → Bool
  | '_' :: rest => !rest.isEmpty && rest.all isDecimal
  | _ => false

/-- A version of a register: `rax_2`, `r8_1`, `edi_12`. -/
def isRegister : List Char → Bool
  | a :: b :: c :: rest =>
      (a == 'r' || a == 'e') && isRegisterChar b &&
        (isVersion (c :: rest) || (isRegisterChar c && isVersion rest))
  | _ => false

/-- The keywords of both dialects. -/
def keywords : List String :=
  ["asm", "auto", "break", "case", "const", "continue", "default", "do", "else", "enum", "extern",
    "for", "goto", "if", "inline", "register", "restrict", "return", "sizeof", "static", "struct",
    "switch", "typedef", "union", "volatile", "while", "true", "false", "NULL", "nullptr",
    "__fastcall", "__cdecl", "__stdcall", "__thiscall", "__usercall", "__userpurge", "__noreturn",
    "__spoils", "__hidden", "__return_ptr", "__struct_ptr", "__array_ptr", "__unused", "__far",
    "__near", "__ptr32", "__ptr64", "__declspec", "__attribute__", "__pure", "__noinline"]

/-- The built-in types of both dialects. -/
def builtinTypes : List String :=
  ["bool", "_Bool", "char", "double", "float", "int", "long", "short", "signed", "unsigned", "void",
    "wchar_t", "size_t", "ssize_t", "__int8", "__int16", "__int32", "__int64", "__int128", "__m64",
    "__m128", "__m128i", "__m128d", "__m256", "__m256i"]

def isOneOf (words : List String) (word : List Char) : Bool := words.any (·.toList == word)

/-- A stem that is followed by word characters, such as a label's or a variable's. -/
def stemmedWord (stem : List Char) : Recogniser :=
  wholeWord (fun word => isStemWith stem (fun _ => true) word)

/-- The number of a condition: the word `cond`, a colon and a word. -/
def conditionLength : Recogniser := fun text =>
  match afterStem? "cond:".toList text with
  | some rest =>
      let word := wordRun rest
      if word.isEmpty then 0 else 5 + word.length
  | none => 0

/-! ## Fixed texts -/

/-- The length of the first of some texts that stands at the start. -/
def firstOf (texts : List (List Char)) : Recogniser := fun text =>
  match texts.find? (·.isPrefixOf text) with
  | some found => found.length
  | none => 0

/-- One character of a class. -/
def oneChar (test : Char → Bool) : Recogniser
  | c :: _ => if test c then 1 else 0
  | [] => 0

/-- The placeholders that an earlier pass may have put in. -/
def placeholders : List (List Char) :=
  ["FUNCTION", "Number", "STRING", "VARIBLE", "LABEL", "CONDITION", "ADDR", "LOCADDR", "INTERADDR",
    "NUM"].map fun name => '<' :: name.toList ++ ['>']

/-- Operators of more than one character. No operator comes after one that it begins with. -/
def compoundOperators : List (List Char) :=
  ["->", "++", "--", "==", "!=", ">=", "<=", "&&", "||", "+=", "-=", "*=", "/=", "%=", "&=", "^=",
    "|=", "<<=", ">>=", "<<", ">>", "...", "##"].map String.toList

def isOperator (c : Char) : Bool := "~!%^&*+=|?:<>/-".toList.contains c

/-- Brackets, commas, semicolons and points. -/
def isPunctuation (c : Char) : Bool := "()[],.;\x7b\x7d".toList.contains c

/-! ## Blanks and comments -/

/-- A run of white space, or a backslash with the newline after it. -/
def blankLength : Recogniser
  | '\\' :: '\n' :: _ => 2
  | text => (text.takeWhile isBlank).length

/-- The number of characters before the end of the line. -/
def lineLength (text : List Char) : Nat := (text.takeWhile (· ≠ '\n')).length

/-- A comment that the end of the line closes. -/
def lineCommentLength : Recogniser
  | '/' :: '/' :: rest => 2 + lineLength rest
  | _ => 0

/-- The number of characters up to the end of a block comment; all of them when nothing ends it. -/
def blockLength : List Char → Nat
  | '*' :: '/' :: _ => 2
  | _ :: rest => 1 + blockLength rest
  | [] => 0

/-- A comment between a slash with a star and a star with a slash. -/
def blockCommentLength : Recogniser
  | '/' :: '*' :: rest => 2 + blockLength rest
  | _ => 0

/-- The directives that make a line a comment. -/
def directives : List String :=
  ["include", "define", "undef", "ifdef", "ifndef", "if", "elif", "else", "endif", "pragma", "error",
    "warning", "line"]

/-- A preprocessor line, up to its end. -/
def directiveLength : Recogniser
  | '#' :: rest =>
      let indent := rest.takeWhile fun c => c == ' ' || c == '\t'
      let afterIndent := rest.drop indent.length
      if isOneOf directives (wordRun afterIndent) then 1 + indent.length + lineLength afterIndent
      else 0
  | _ => 0

/-! ## Strings -/

/-- The encoding marks that may precede a quote. -/
def encodingMarks : List (List Char) := [['L'], ['u', '8'], ['u'], ['U'], []]

/-- The text after an encoding mark and a quote, with the length of both. -/
def openedBy (quote : Char) (text : List Char) : Option (Nat × List Char) :=
  encodingMarks.findSome? fun mark =>
    ((mark ++ [quote]).isPrefixOf? text).map fun rest => (mark.length + 1, rest)

/-- The number of characters up to the closing quote, which must come before the end of the line. A
backslash takes the character after it along. -/
def closingLength? (quote : Char) : List Char → Option Nat
  | [] => none
  | '\\' :: c :: rest => if c = '\n' then none else (closingLength? quote rest).map (· + 2)
  | c :: rest =>
      if c = quote then some 1
      else if c = '\n' || c = '\\' then none
      else (closingLength? quote rest).map (· + 1)

def closedLength (quote : Char) : Recogniser := fun text =>
  match openedBy quote text with
  | some (opening, rest) =>
      match closingLength? quote rest with
      | some closing => opening + closing
      | none => 0
  | none => 0

/-- A string literal that the end of the line cuts off. -/
def openStringLength : Recogniser := fun text =>
  match openedBy '"' text with
  | some (opening, rest) => opening + lineLength rest
  | none => 0

/-! ## Numbers -/

def digitsLength (text : List Char) : Nat := (text.takeWhile isDecimal).length

/-- One at the start of a text when a character of a class stands there, else zero. -/
def optionalLength (test : Char → Bool) (text : List Char) : Nat := oneChar test text

/-- The number of characters of digits with a point among, before or after them; zero without a point
or without a digit. -/
def pointedLength : Recogniser := fun text =>
  let whole := digitsLength text
  match text.drop whole with
  | '.' :: rest =>
      let fraction := digitsLength rest
      if whole = 0 && fraction = 0 then 0 else whole + 1 + fraction
  | _ => 0

/-- The number of characters of an exponent: its letter, an optional sign, digits, and an optional
letter for the type. -/
def exponentLength : Recogniser
  | c :: rest =>
      if c = 'e' || c = 'E' then
        let sign := optionalLength (fun c => c == '+' || c == '-') rest
        let digits := digitsLength (rest.drop sign)
        if digits = 0 then 0
        else
          1 + sign + digits +
            optionalLength ("fFlL".toList.contains ·) (rest.drop (sign + digits))
      else 0
  | [] => 0

/-- A number with an exponent. -/
def scientificLength : Recogniser := fun text =>
  let pointed := pointedLength text
  let mantissa := if pointed = 0 then digitsLength text else pointed
  let exponent := exponentLength (text.drop mantissa)
  if mantissa = 0 || exponent = 0 then 0 else mantissa + exponent

/-- The letter of a single-precision number. -/
def isFloatLetter (c : Char) : Bool := c == 'f' || c == 'F'

/-- A number with a point or with the letter of a single-precision number. -/
def floatLength : Recogniser := fun text =>
  let pointed := pointedLength text
  if pointed ≠ 0 then pointed + optionalLength isFloatLetter (text.drop pointed)
  else
    let digits := digitsLength text
    let letter := optionalLength isFloatLetter (text.drop digits)
    if digits = 0 || letter = 0 then 0
    else digits + 1 + optionalLength isFloatLetter (text.drop (digits + 1))

/-- The number of suffix letters for long and unsigned. -/
def suffixLength (text : List Char) : Nat := (text.takeWhile ("LlUu".toList.contains ·)).length

/-- The number of characters of a suffix that gives the width: the letter i and the width. -/
def widthLength : Recogniser := firstOf ["i8".toList, "i16".toList, "i32".toList, "i64".toList]

/-- An integer's digits, of which there is at least one, with its suffixes. -/
def suffixedLength (digits : Nat) (withWidth : Bool) (text : List Char) : Nat :=
  let suffixed := digits + suffixLength (text.drop digits)
  if withWidth then suffixed + widthLength (text.drop suffixed) else suffixed

/-- An integer with a marked base: a zero, one of two letters, and digits. -/
def basedLength (lower upper : Char) (digit : Char → Bool) (withWidth : Bool) : Recogniser
  | '0' :: x :: rest =>
      let digits := (rest.takeWhile digit).length
      if (x = lower || x = upper) && digits ≠ 0 then
        suffixedLength (2 + digits) withWidth ('0' :: x :: rest)
      else 0
  | _ => 0

def isOctalDigit (c : Char) : Bool := '0' ≤ c && c ≤ '7'

/-- An octal integer: a zero and at least one octal digit. -/
def octalLength : Recogniser
  | '0' :: rest =>
      let digits := (rest.takeWhile isOctalDigit).length
      if digits = 0 then 0 else suffixedLength (1 + digits) true ('0' :: rest)
  | _ => 0

/-- A decimal integer. -/
def decimalLength : Recogniser := fun text =>
  let digits := digitsLength text
  if digits = 0 then 0 else suffixedLength digits true text

/-! ## The rules of a dialect -/

/-- Rules that come before those of the dialect. -/
def leadingRules : List Rule :=
  [⟨.placeholder, firstOf placeholders⟩, ⟨.scopeOperator, firstOf ["::".toList]⟩,
    ⟨.operator, firstOf compoundOperators⟩]

/-- Names that only one dialect has. -/
def dialectRules : Dialect → List Rule
  | .decompiler =>
      [⟨.keywordType, wholeWord isSizedType⟩, ⟨.keywordType, wholeWord isOpaqueType⟩,
        ⟨.nameFunction, wholeWord isSubroutine⟩]
  | .analysisTool =>
      [⟨.nameFunction, wholeWord isSubroutine⟩, ⟨.nameCondition, conditionLength⟩,
        ⟨.nameLabel, stemmedWord "label_".toList⟩, ⟨.nameVariable, stemmedWord "var_".toList⟩,
        ⟨.nameVariable, stemmedWord "data_".toList⟩, ⟨.nameRegister, wholeWord isRegister⟩,
        ⟨.keywordType, wholeWord isWidthType⟩]

/-- Keywords and built-in types. -/
def keywordRules : List Rule :=
  [⟨.keyword, wholeWord (isOneOf keywords)⟩, ⟨.keywordType, wholeWord (isOneOf builtinTypes)⟩]

/-- A call: with its parenthesis in a decompiler's text, without it in an analysis tool's. -/
def callRule : Dialect → Rule
  | .decompiler => ⟨.nameFunction, callLength⟩
  | .analysisTool => ⟨.nameFunction, calledNameLength⟩

/-- Rules that come after those of the dialect. -/
def commonRules : List Rule :=
  [⟨.whitespace, blankLength⟩, ⟨.comment, lineCommentLength⟩, ⟨.comment, blockCommentLength⟩,
    ⟨.comment, directiveLength⟩, ⟨.string, closedLength '"'⟩, ⟨.string, openStringLength⟩,
    ⟨.string, closedLength '\''⟩, ⟨.number, scientificLength⟩, ⟨.number, floatLength⟩,
    ⟨.number, basedLength 'x' 'X' isHexDigit true⟩,
    ⟨.number, basedLength 'b' 'B' (fun c => c == '0' || c == '1') false⟩,
    ⟨.number, octalLength⟩, ⟨.number, decimalLength⟩, ⟨.operator, oneChar isOperator⟩,
    ⟨.punctuation, oneChar isPunctuation⟩, ⟨.identifier, nameLength⟩,
    ⟨.other, oneChar fun c => !isBlank c && !isWord c⟩]

/-- The rules of a dialect, in the order in which they are tried. -/
def Dialect.rules (dialect : Dialect) : List Rule :=
  leadingRules ++ dialectRules dialect ++ keywordRules ++ callRule dialect :: commonRules

/-- A name such as `sub_401000` that stands for no name at all; capitals need not be used. -/
def isAnonymous (name : List Char) : Bool := isStemWith "sub_".toList isHexDigit name

end SymbolCorpus.PseudoCode
