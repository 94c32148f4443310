import SymbolCorpus.Text.Octets
import SymbolCorpus.Yaml.Value

/-! # Reading YAML

The reader takes one document of block and flow collections and of plain and quoted scalars. A block
collection is told by the column in which its entries begin; flow collections and quoted scalars may
run over several lines. Tags, anchors, block scalars and directives are not read.

A key is recognised after it has been read as a scalar: a colon follows it on the same line.
-/

namespace SymbolCorpus.Yaml

/-- What is left of a text, with the column in which it begins. -/
structure Cursor where
  /-- The column, counted from zero. -/
  column : Nat
  rest : List Char

namespace Cursor

/-- The cursor after one more character. -/
def step (column : Nat) (c : Char) : Nat := if c = '\n' then 0 else column + 1

/-- The cursor after a number of characters. -/
def drop (cursor : Cursor) (count : Nat) : Cursor :=
  ⟨(cursor.rest.take count).foldl step cursor.column, cursor.rest.drop count⟩

end Cursor

/-- A space or a tab. -/
def isBlank (c : Char) : Bool := c == ' ' || c == '\t'

/-- A space, a tab or a line break. -/
def isBlankOrBreak (c : Char) : Bool := isBlank c || c == '\n'

/-- A blank, a line break or the end comes next. -/
def startsBlank : List Char → Bool
  | c :: _ => isBlankOrBreak c
  | [] => true

/-- The rest of the text is one of the two marks of a document's bounds. -/
def startsMark (mark : List Char) (rest : List Char) : Bool :=
  match mark.isPrefixOf? rest with
  | some after => startsBlank after
  | none => false

/-- A mark of a document's bounds stands at the start of a line. -/
def atBound (cursor : Cursor) : Bool :=
  cursor.column = 0 && (startsMark "---".toList cursor.rest || startsMark "...".toList cursor.rest)

/-! ## Between tokens -/

/-- The cursor after a comment, which ends before the line does. -/
def skipComment (cursor : Cursor) : Cursor :=
  match cursor.rest with
  | '#' :: _ => cursor.drop (cursor.rest.takeWhile (· ≠ '\n')).length
  | _ => cursor

/-- The cursor after spaces, tabs among them if they are allowed. -/
def skipSpaces (tabs : Bool) (cursor : Cursor) : Cursor :=
  cursor.drop (cursor.rest.takeWhile fun c => c == ' ' || (tabs && c == '\t')).length

/-- The cursor at the next token, which may stand on a later line. Tabs may begin a line only inside
a flow collection. -/
def skipLines (flow : Bool) : Nat → Bool → Cursor → Cursor
  | 0, _, cursor => cursor
  | fuel + 1, tabs, cursor =>
      let cursor := skipComment (skipSpaces (flow || tabs) cursor)
      match cursor.rest with
      | '\n' :: _ => skipLines flow fuel false (cursor.drop 1)
      | _ => cursor

/-- The cursor at the next token in a block, from within a line. -/
def nextInBlock (cursor : Cursor) : Cursor :=
  skipLines false (cursor.rest.length + 1) true cursor

/-- The cursor at the next token in a block, from the start of a line. -/
def nextFromLine (cursor : Cursor) : Cursor :=
  skipLines false (cursor.rest.length + 1) false cursor

/-- The cursor at the next token in a flow collection. -/
def nextInFlow (cursor : Cursor) : Cursor :=
  skipLines true (cursor.rest.length + 1) true cursor

/-! ## Scalars -/

/-- What blanks and line breaks within a scalar stand for: blanks for themselves, one break for a
space, more breaks for one break less. -/
def folded (blanks : List Char) : List Char :=
  match (blanks.filter (· = '\n')).length with
  | 0 => blanks
  | 1 => [' ']
  | breaks + 1 => List.replicate breaks '\n'

/-- The character of an escape with one letter in a double-quoted scalar. -/
def simpleEscape? : Char → Option Char
  | '0' => some '\x00'
  | 'a' => some '\x07'
  | 'b' => some '\x08'
  | 't' => some '\t'
  | '\t' => some '\t'
  | 'n' => some '\n'
  | 'v' => some '\x0b'
  | 'f' => some '\x0c'
  | 'r' => some '\r'
  | 'e' => some '\x1b'
  | ' ' => some ' '
  | '"' => some '"'
  | '/' => some '/'
  | '\\' => some '\\'
  | 'N' => some '\u0085'
  | '_' => some '\u00a0'
  | 'L' => some '\u2028'
  | 'P' => some '\u2029'
  | _ => none

/-- The number of hexadecimal digits after the letter of an escape. -/
def escapeWidth? : Char → Option Nat
  | 'x' => some 2
  | 'u' => some 4
  | 'U' => some 8
  | _ => none

def codeEscape? (digits : List Char) : Option Char := do
  let code ← digitsValue? 16 digits
  if code.isValidChar then some (Char.ofNat code) else none

/-- The text of a single-quoted scalar after its opening quote, and the number of characters up to and
with the closing one. -/
def readSingle : Nat → List Char → Option (List Char × Nat)
  | 0, _ => none
  | fuel + 1, text =>
      match text with
      | [] => none
      | '\'' :: '\'' :: rest =>
          (readSingle fuel rest).map fun (read, count) => ('\'' :: read, count + 2)
      | '\'' :: _ => some ([], 1)
      | c :: rest =>
          let blanks := text.takeWhile isBlankOrBreak
          if blanks.isEmpty then
            (readSingle fuel rest).map fun (read, count) => (c :: read, count + 1)
          else
            (readSingle fuel (text.drop blanks.length)).map fun (read, count) =>
              (folded blanks ++ read, count + blanks.length)

/-- The text of a double-quoted scalar after its opening quote, and the number of characters up to and
with the closing one. -/
def readDouble : Nat → List Char → Option (List Char × Nat)
  | 0, _ => none
  | fuel + 1, text =>
      match text with
      | [] => none
      | '"' :: _ => some ([], 1)
      | '\\' :: '\n' :: rest =>
          let blanks := rest.takeWhile isBlankOrBreak
          let breaks := blanks.filter (· = '\n')
          (readDouble fuel (rest.drop blanks.length)).map fun (read, count) =>
            (breaks ++ read, count + 2 + blanks.length)
      | '\\' :: letter :: rest =>
          match escapeWidth? letter with
          | some width => do
              let c ← if rest.length < width then none else codeEscape? (rest.take width)
              let (read, count) ← readDouble fuel (rest.drop width)
              pure (c :: read, count + 2 + width)
          | none => do
              let c ← simpleEscape? letter
              let (read, count) ← readDouble fuel rest
              pure (c :: read, count + 2)
      | c :: rest =>
          let blanks := text.takeWhile isBlankOrBreak
          if blanks.isEmpty then
            (readDouble fuel rest).map fun (read, count) => (c :: read, count + 1)
          else
            (readDouble fuel (text.drop blanks.length)).map fun (read, count) =>
              (folded blanks ++ read, count + blanks.length)

/-- The characters that end a plain scalar in a flow collection. -/
def isFlowIndicator (c : Char) : Bool := ",[]\x7b\x7d".toList.contains c

/-- The characters of a plain scalar up to a blank or to what ends the scalar; none when a colon
stands where a flow collection allows none. -/
def plainChunk (flow : Bool) : List Char → Option (List Char)
  | [] => some []
  | ':' :: rest =>
      if startsBlank rest then some []
      else if flow && (rest.head?.any fun c => isFlowIndicator c || c = '?') then none
      else (plainChunk flow rest).map (':' :: ·)
  | c :: rest =>
      if isBlankOrBreak c || (flow && isFlowIndicator c) then some []
      else (plainChunk flow rest).map (c :: ·)

/-- The rest of a plain scalar after a chunk: blanks and a further chunk, as long as the scalar goes
on. Lines after the first must begin at a least column, except in a flow collection. -/
def readPlain (flow : Bool) (leastColumn : Nat) : Nat → Cursor → Option (List Char × Cursor)
  | 0, _ => none
  | fuel + 1, cursor => do
      let chunk ← plainChunk flow cursor.rest
      let after := cursor.drop chunk.length
      let blanks := after.rest.takeWhile isBlankOrBreak
      let next := after.drop blanks.length
      let newLine := blanks.contains '\n'
      let ends :=
        blanks.isEmpty || next.rest.isEmpty || next.rest.head? == some '#' ||
          (newLine && (atBound next || (!flow && next.column < leastColumn)))
      if ends then pure (chunk, after)
      else
        match ← plainChunk flow next.rest with
        | [] => pure (chunk, after)
        | _ =>
            let (more, last) ← readPlain flow leastColumn fuel next
            pure (chunk ++ folded blanks ++ more, last)

/-- The characters that no plain scalar begins with. -/
def isIndicator (c : Char) : Bool := ",[]\x7b\x7d#&*!|>'\"%@\x60".toList.contains c

/-- A plain scalar begins here. -/
def startsPlain (flow : Bool) : List Char → Bool
  | '-' :: rest => !startsBlank rest
  | '?' :: rest => !flow && !startsBlank rest
  | ':' :: rest => !flow && !startsBlank rest
  | c :: _ => !isBlankOrBreak c && !isIndicator c
  | [] => false

/-- A scalar and what follows it. -/
def readScalar (flow : Bool) (leastColumn : Nat) (cursor : Cursor) : Option (Yaml × Cursor) :=
  let fuel := cursor.rest.length + 1
  match cursor.rest with
  | '\'' :: rest =>
      (readSingle fuel rest).map fun (text, count) => (.scalar false text, cursor.drop (count + 1))
  | '"' :: rest =>
      (readDouble fuel rest).map fun (text, count) => (.scalar false text, cursor.drop (count + 1))
  | rest =>
      if startsPlain flow rest then
        (readPlain flow leastColumn fuel cursor).map fun (text, after) => (.scalar true text, after)
      else none

/-! ## Flow collections -/

mutual

/-- A value in a flow collection, at its first character; nothing may be written for it. -/
def readFlow : Nat → Cursor → Option (Yaml × Cursor)
  | 0, _ => none
  | fuel + 1, cursor =>
      match cursor.rest with
      | '[' :: _ =>
          (readFlowItems fuel (nextInFlow (cursor.drop 1))).map fun (items, after) =>
            (.sequence items, after)
      | '{' :: _ =>
          (readFlowEntries fuel (nextInFlow (cursor.drop 1))).map fun (entries, after) =>
            (.mapping entries, after)
      | ',' :: _ => some (absent, cursor)
      | ']' :: _ => some (absent, cursor)
      | '}' :: _ => some (absent, cursor)
      | ':' :: _ => some (absent, cursor)
      | _ => if atBound cursor then none else readScalar true 0 cursor

/-- The items of a flow sequence, at the first character of one. -/
def readFlowItems : Nat → Cursor → Option (List Yaml × Cursor)
  | 0, _ => none
  | fuel + 1, cursor =>
      match cursor.rest with
      | ']' :: _ => some ([], cursor.drop 1)
      | ',' :: _ => none
      | _ => do
          let (item, after) ← readFlowPair fuel cursor
          let next := nextInFlow after
          match next.rest with
          | ']' :: _ => pure ([item], next.drop 1)
          | ',' :: _ =>
              let (items, last) ← readFlowItems fuel (nextInFlow (next.drop 1))
              pure (item :: items, last)
          | _ => none

/-- An item of a flow sequence: a value, or a mapping of one entry. -/
def readFlowPair : Nat → Cursor → Option (Yaml × Cursor)
  | 0, _ => none
  | fuel + 1, cursor => do
      let (key, after) ← readFlow fuel cursor
      let next := nextInFlow after
      match next.rest with
      | ':' :: _ =>
          let (value, last) ← readFlow fuel (nextInFlow (next.drop 1))
          pure (.mapping [(key, value)], last)
      | _ => pure (key, after)

/-- The entries of a flow mapping, at the first character of one. -/
def readFlowEntries : Nat → Cursor → Option (List (Yaml × Yaml) × Cursor)
  | 0, _ => none
  | fuel + 1, cursor =>
      match cursor.rest with
      | '}' :: _ => some ([], cursor.drop 1)
      | ',' :: _ => none
      | _ => do
          let (key, after) ← readFlow fuel cursor
          let next := nextInFlow after
          let (value, next) ←
            match next.rest with
            | ':' :: _ => do
                let (value, last) ← readFlow fuel (nextInFlow (next.drop 1))
                pure (value, nextInFlow last)
            | _ => pure (absent, next)
          match next.rest with
          | '}' :: _ => pure ([(key, value)], next.drop 1)
          | ',' :: _ =>
              let (entries, last) ← readFlowEntries fuel (nextInFlow (next.drop 1))
              pure ((key, value) :: entries, last)
          | _ => none

end

/-! ## Block collections -/

/-- A scalar or a flow collection in a block. -/
def readInline (leastColumn : Nat) (cursor : Cursor) : Option (Yaml × Cursor) :=
  match cursor.rest with
  | '[' :: _ => readFlow (2 * cursor.rest.length + 2) cursor
  | '{' :: _ => readFlow (2 * cursor.rest.length + 2) cursor
  | _ => readScalar false leastColumn cursor

/-- A colon and a blank come next on the line; the cursor after the colon. -/
def afterColon? (cursor : Cursor) : Option Cursor :=
  let cursor := skipSpaces true cursor
  match cursor.rest with
  | ':' :: rest => if startsBlank rest then some (cursor.drop 1) else none
  | _ => none

/-- The text between two cursors holds no line break. -/
def onOneLine (start stop : Cursor) : Bool :=
  !(start.rest.take (start.rest.length - stop.rest.length)).contains '\n'

/-- An item of a block sequence begins here. -/
def startsItem : List Char → Bool
  | '-' :: rest => startsBlank rest
  | _ => false

/-- Nothing more belongs to a block that begins at a column. -/
def endsBlock (column : Nat) (cursor : Cursor) : Bool :=
  cursor.rest.isEmpty || atBound cursor || cursor.column < column

/-- Only blanks and a comment stand before the end of the line. -/
def endsLine (cursor : Cursor) : Bool :=
  match (skipComment (skipSpaces true cursor)).rest with
  | '\n' :: _ => true
  | [] => true
  | _ => false

mutual

/-- A value that begins a line, at its first character, in a block that begins at a column at
least. -/
def readBlock : Nat → Nat → Cursor → Option (Yaml × Cursor)
  | 0, _, _ => none
  | fuel + 1, leastColumn, cursor =>
      if endsBlock leastColumn cursor then some (absent, cursor)
      else if startsItem cursor.rest then
        (readBlockItems fuel cursor.column cursor).map fun (items, after) =>
          (.sequence items, after)
      else do
        let (value, after) ← readInline leastColumn cursor
        match afterColon? after with
        | some colon =>
            if onOneLine cursor after then
              let (entries, last) ← readBlockEntry fuel cursor.column value colon
              pure (.mapping entries, last)
            else none
        | none => if endsLine after then some (value, nextInBlock after) else none

/-- The items of a block sequence, at the dash of the first. -/
def readBlockItems : Nat → Nat → Cursor → Option (List Yaml × Cursor)
  | 0, _, _ => none
  | fuel + 1, column, cursor => do
      let inside := nextInBlock (cursor.drop 1)
      let (item, next) ← readBlock fuel (column + 1) inside
      if !endsBlock column next && next.column = column && startsItem next.rest then
        let (items, last) ← readBlockItems fuel column next
        pure (item :: items, last)
      else if endsBlock (column + 1) next then pure ([item], next)
      else none

/-- The entries of a block mapping from the value of one key on, after its colon. -/
def readBlockEntry : Nat → Nat → Yaml → Cursor → Option (List (Yaml × Yaml) × Cursor)
  | 0, _, _, _ => none
  | fuel + 1, column, key, colon => do
      let (value, next) ←
        if endsLine colon then
          let below := nextInBlock colon
          if below.column = column && startsItem below.rest && !endsBlock column below then do
            let (items, after) ← readBlockItems fuel column below
            pure (Yaml.sequence items, after)
          else readBlock fuel (column + 1) below
        else do
          let (value, after) ← readInline (column + 1) (skipSpaces true colon)
          if endsLine after then some (value, nextInBlock after) else none
      if endsBlock column next then pure ([(key, value)], next)
      else if next.column ≠ column then none
      else do
        let (nextKey, after) ← readInline (column + 1) next
        match afterColon? after with
        | some colon =>
            if onOneLine next after then
              let (entries, last) ← readBlockEntry fuel column nextKey colon
              pure ((key, value) :: entries, last)
            else none
        | none => none

end

/-! ## Documents -/

/-- A character that a YAML text may hold. -/
def isAllowed (c : Char) : Bool :=
  let code := c.toNat
  code = 0x9 || code = 0xa || code = 0xd || (0x20 ≤ code && code ≤ 0x7e) || code = 0x85 ||
    (0xa0 ≤ code && code ≤ 0xfffd && code ≠ 0xfeff) || 0x10000 ≤ code

/-- The text with every line break written as one newline. -/
def normalizeBreaks : List Char → List Char
  | '\r' :: '\n' :: rest => '\n' :: normalizeBreaks rest
  | '\r' :: rest => '\n' :: normalizeBreaks rest
  | '\u0085' :: rest => '\n' :: normalizeBreaks rest
  | c :: rest => c :: normalizeBreaks rest
  | [] => []

/-- Nothing but the mark of the document's end, blanks and comments is left. -/
def endsDocument (cursor : Cursor) : Bool :=
  if cursor.rest.isEmpty then true
  else if cursor.column = 0 && startsMark "...".toList cursor.rest then
    (nextInBlock (cursor.drop 3)).rest.isEmpty
  else false

/-- The value of a document after the mark of its start, on whose line no block may begin. -/
def readMarked (cursor : Cursor) : Option (Yaml × Cursor) :=
  if endsLine cursor then
    let next := nextInBlock cursor
    readBlock (2 * next.rest.length + 2) 0 next
  else do
    let (value, after) ← readInline 0 (skipSpaces true cursor)
    if endsLine after then some (value, nextInBlock after) else none

/-- The one document of a text. -/
def read (text : List Char) : Option Yaml := do
  let text :=
    match text with
    | '\ufeff' :: rest => rest
    | _ => text
  if !text.all isAllowed then none
  else
    let start := nextFromLine ⟨0, normalizeBreaks text⟩
    let (value, after) ←
      if start.column = 0 && startsMark "---".toList start.rest then readMarked (start.drop 3)
      else readBlock (2 * start.rest.length + 2) 0 start
    if endsDocument after then some value else none

/-- The one document of octets. -/
def ofOctets (octets : ByteArray) : Option Yaml := (Text.ofOctets? octets).bind read

end SymbolCorpus.Yaml
