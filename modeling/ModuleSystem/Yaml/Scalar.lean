import ModuleSystem.Yaml.Token

/-!
# YAML scalars

Readers of the four ways to write a scalar: plain, in single or double quotes, and as a block of lines
that are kept or folded.
-/

namespace ModuleSystem.Yaml

open Text (hexValue?)

/-- The character of an escape of one letter in double quotes. -/
def escapeChar? : Char → Option Char
  | '0' => some '\x00'
  | 'a' => some '\x07'
  | 'b' => some '\x08'
  | 't' => some '\t'
  | '\t' => some '\t'
  | 'n' => some '\n'
  | 'v' => some '\x0b'
  | 'f' => some '\x0c'
  | 'r' => some '\r'
  | 'e' => some '\x1b'
  | ' ' => some ' '
  | '"' => some '"'
  | '\\' => some '\\'
  | '/' => some '/'
  | 'N' => some '\x85'
  | '_' => some '\xa0'
  | 'L' => some '\u2028'
  | 'P' => some '\u2029'
  | _ => none

/-- How many hexadecimal digits follow the letter of an escape. -/
def escapeLength? : Char → Option Nat
  | 'x' => some 2
  | 'u' => some 4
  | 'U' => some 8
  | _ => none

/-- The number of some hexadecimal digits. -/
def hexNumber? (chars : List Char) : Option Nat :=
  chars.foldlM (fun n c => (hexValue? c).map (16 * n + ·)) 0

/-- The character with a code point. -/
def charOfCode (code : Nat) : Except Problem Char :=
  if code < 0x110000 then .ok (Char.ofNat code)
  else if code < 0x80000000 then .error .codePointOutOfRange
  else .error .codePointTooLarge

/-- Reads line breaks and the blanks that start the lines, and gives back the breaks. A document mark
must not start a line inside quotes. -/
def readQuotedBreaks : Nat → List Char → Cursor → Except Problem (List Char × Cursor)
  | 0, breaks, cursor => .ok (breaks, cursor)
  | fuel + 1, breaks, cursor =>
    if cursor.atDocumentMark then .error .unterminated
    else
      let cursor := cursor.skipWhile fun c => c = ' ' || c = '\t'
      if isBreak cursor.peek then
        let (lineBreak, cursor) := cursor.lineBreak
        readQuotedBreaks fuel (breaks ++ lineBreak) cursor
      else .ok (breaks, cursor)

/-- The text that a line break and the breaks behind it fold to. -/
def foldBreaks (lineBreak breaks : List Char) : List Char :=
  if lineBreak ≠ ['\n'] then lineBreak ++ breaks
  else if breaks.isEmpty then [' ']
  else breaks

/-- Reads the blanks between two words in quotes. -/
def readQuotedSpaces (cursor : Cursor) : Except Problem (List Char × Cursor) := do
  let (blanks, cursor) := cursor.span fun c => c = ' ' || c = '\t'
  if cursor.rest.isEmpty then throw .unterminated
  if isBreak cursor.peek then
    let (lineBreak, cursor) := cursor.lineBreak
    let (breaks, cursor) ← readQuotedBreaks (cursor.rest.length + 1) [] cursor
    return (foldBreaks lineBreak breaks, cursor)
  return (blanks, cursor)

/-- Reads an escape in double quotes, from behind its backslash on. -/
def readEscape (cursor : Cursor) : Except Problem (List Char × Cursor) := do
  let c := cursor.peek
  match escapeChar? c with
  | some char => return ([char], cursor.next)
  | none =>
    match escapeLength? c with
    | some count =>
      let digits := (cursor.next.rest).take count
      match if digits.length = count then hexNumber? digits else none with
      | none => throw .invalidEscape
      | some code =>
        let char ← charOfCode code
        return ([char], cursor.next.skip count)
    | none =>
      if isBreak c then
        let (_, cursor) := cursor.lineBreak
        readQuotedBreaks (cursor.rest.length + 1) [] cursor
      else throw .invalidEscape

/-- Reads characters in quotes up to a blank, a break or the closing quote. -/
def readQuotedWord (isDouble : Bool) :
    Nat → List Char → Cursor → Except Problem (List Char × Cursor)
  | 0, word, cursor => .ok (word, cursor)
  | fuel + 1, word, cursor =>
    match cursor.rest with
    | [] => .ok (word, cursor)
    | c :: rest =>
      if isBlankOrBreak c then .ok (word, cursor)
      else if isDouble then
        if c = '"' then .ok (word, cursor)
        else if c = '\\' then do
          let (escape, cursor) ← readEscape cursor.next
          readQuotedWord isDouble fuel (word ++ escape) cursor
        else readQuotedWord isDouble fuel (word ++ [c]) cursor.next
      else if c = '\'' then
        if rest.head? = some '\'' then readQuotedWord isDouble fuel (word ++ [c]) (cursor.skip 2)
        else .ok (word, cursor)
      else readQuotedWord isDouble fuel (word ++ [c]) cursor.next

/-- Reads words and blanks in quotes up to the closing quote. -/
def readQuotedText (isDouble : Bool) :
    Nat → List Char → Cursor → Except Problem (List Char × Cursor)
  | 0, _, _ => .error .unterminated
  | fuel + 1, text, cursor => do
    let (word, cursor) ← readQuotedWord isDouble (cursor.rest.length + 1) [] cursor
    let text := text ++ word
    if cursor.peek = (if isDouble then '"' else '\'') then return (text, cursor.next)
    let (spaces, cursor) ← readQuotedSpaces cursor
    readQuotedText isDouble fuel (text ++ spaces) cursor

/-- Reads a scalar in quotes. -/
def readQuoted (cursor : Cursor) : Except Problem (List Char × Cursor) :=
  readQuotedText (cursor.peek = '"') (cursor.rest.length + 1) [] cursor.next

/-- How the line breaks at the end of a block are treated: all kept, all removed, or one kept. -/
inductive Chomping where
  | keep
  | remove
  | one
  deriving DecidableEq, Repr

/-- The treatment that a sign asks for. -/
def Chomping.ofSign? : Char → Option Chomping
  | '+' => some .keep
  | '-' => some .remove
  | _ => none

/-- The indentation that a digit asks for. -/
def readIncrement (cursor : Cursor) : Except Problem (Option Nat × Cursor) :=
  let c := cursor.peek
  if c.isDigit then
    if c = '0' then .error .invalidBlockHeader else .ok (some (c.toNat - '0'.toNat), cursor.next)
  else .ok (none, cursor)

/-- Reads the header of a block behind its indicator: a sign and a digit in any order. -/
def readBlockHeader (cursor : Cursor) : Except Problem (Chomping × Option Nat × Cursor) := do
  let (chomping, increment, cursor) ←
    match Chomping.ofSign? cursor.peek with
    | some chomping => do
      let (increment, cursor) ← readIncrement cursor.next
      pure (chomping, increment, cursor)
    | none => do
      let (increment, cursor) ← readIncrement cursor
      match increment, Chomping.ofSign? cursor.peek with
      | some n, some chomping => pure (chomping, some n, cursor.next)
      | increment, _ => pure (Chomping.one, increment, cursor)
  if !isSpaceOrBreak cursor.peek then throw .invalidBlockHeader
  let cursor := cursor.skipComment
  if !isBreakOrEnd cursor.peek then throw .invalidBlockHeader
  return (chomping, increment, cursor.lineBreak.2)

/-- Moves over spaces up to a column. -/
def skipToColumn (indent : Nat) : Nat → Cursor → Cursor
  | 0, cursor => cursor
  | fuel + 1, cursor =>
    if cursor.column < indent && cursor.peek = ' ' then skipToColumn indent fuel cursor.next
    else cursor

/-- Reads empty lines, and the spaces up to a column that start the line behind them. -/
def readBlockBreaks (indent : Nat) : Nat → List Char → Cursor → List Char × Cursor
  | 0, breaks, cursor => (breaks, cursor)
  | fuel + 1, breaks, cursor =>
    let cursor := skipToColumn indent cursor.rest.length cursor
    if isBreak cursor.peek then
      let (lineBreak, cursor) := cursor.lineBreak
      readBlockBreaks indent fuel (breaks ++ lineBreak) cursor
    else (breaks, cursor)

/-- Reads the empty lines that start a block, and finds the widest indentation in front of its text. -/
def findIndent : Nat → List Char → Nat → Cursor → List Char × Nat × Cursor
  | 0, breaks, widest, cursor => (breaks, widest, cursor)
  | fuel + 1, breaks, widest, cursor =>
    if cursor.peek = ' ' then
      let cursor := cursor.next
      findIndent fuel breaks (max widest cursor.column) cursor
    else if isBreak cursor.peek then
      let (lineBreak, cursor) := cursor.lineBreak
      findIndent fuel (breaks ++ lineBreak) widest cursor
    else (breaks, widest, cursor)

/-- The text of a block with its last line break and the breaks behind that. -/
structure BlockText where
  text : List Char
  lineBreak : List Char
  breaks : List Char
  cursor : Cursor

/-- Reads the lines of a block. In a folded block a single break between two lines that start with no
blank becomes a space. -/
def readBlockLines (isFolded : Bool) (indent : Nat) : Nat → BlockText → BlockText
  | 0, block => block
  | fuel + 1, block =>
    if block.cursor.column = indent && !block.cursor.rest.isEmpty then
      let startsFull := block.cursor.peek ≠ ' ' && block.cursor.peek ≠ '\t'
      let (line, cursor) := block.cursor.span (!isBreakOrEnd ·)
      let text := block.text ++ block.breaks ++ line
      let (lineBreak, cursor) := cursor.lineBreak
      let (breaks, cursor) := readBlockBreaks indent (cursor.rest.length + 1) [] cursor
      if cursor.column = indent && !cursor.rest.isEmpty then
        let folds := isFolded && lineBreak = ['\n'] && startsFull && cursor.peek ≠ ' ' &&
          cursor.peek ≠ '\t'
        let joint := if folds then if breaks.isEmpty then [' '] else [] else lineBreak
        readBlockLines isFolded indent fuel ⟨text ++ joint, lineBreak, breaks, cursor⟩
      else ⟨text, lineBreak, breaks, cursor⟩
    else block

/-- Reads a block scalar inside a node of some indentation. -/
def readBlock (parentIndent : Int) (cursor : Cursor) : Except Problem (List Char × Cursor) := do
  let isFolded := cursor.peek = '>'
  let (chomping, increment, cursor) ← readBlockHeader cursor.next
  let least := max (parentIndent + 1).toNat 1
  let (breaks, indent, cursor) := match increment with
    | none =>
      let (breaks, widest, cursor) := findIndent (cursor.rest.length + 1) [] 0 cursor
      (breaks, max least widest, cursor)
    | some n =>
      let indent := least + n - 1
      let (breaks, cursor) := readBlockBreaks indent (cursor.rest.length + 1) [] cursor
      (breaks, indent, cursor)
  let block := readBlockLines isFolded indent (cursor.rest.length + 1) ⟨[], [], breaks, cursor⟩
  let tail := match chomping with
    | .keep => block.lineBreak ++ block.breaks
    | .one => block.lineBreak
    | .remove => []
  return (block.text ++ tail, block.cursor)

/-- Whether a plain scalar ends in front of a text. Inside brackets it also ends at the signs that
structure them. -/
def endsPlain (inFlow : Bool) : List Char → Bool
  | [] => true
  | c :: rest =>
    let next := rest.headD endMark
    isBlankOrBreak c ||
      (c = ':' && (isBlankOrBreak next || (inFlow && ",[]\x7b\x7d".toList.contains next))) ||
      (inFlow && ",?[]\x7b\x7d".toList.contains c)

/-- The characters of a plain scalar at the front of a text. -/
def plainWord (inFlow : Bool) : List Char → List Char
  | [] => []
  | c :: rest => if endsPlain inFlow (c :: rest) then [] else c :: plainWord inFlow rest

/-- Reads empty lines inside a plain scalar; nothing if a document mark starts a line. -/
def readPlainBreaks : Nat → List Char → Cursor → Option (List Char) × Cursor
  | 0, breaks, cursor => (some breaks, cursor)
  | fuel + 1, breaks, cursor =>
    if cursor.peek = ' ' then readPlainBreaks fuel breaks cursor.next
    else if isBreak cursor.peek then
      let (lineBreak, cursor) := cursor.lineBreak
      if cursor.atDocumentMark then (none, cursor)
      else readPlainBreaks fuel (breaks ++ lineBreak) cursor
    else (some breaks, cursor)

/-- The blanks between two words of a plain scalar: their text, which is empty if the scalar ends
there, and whether a line break was read. -/
structure PlainSpaces where
  text : List Char
  brokeLine : Bool
  cursor : Cursor

/-- Reads the blanks between two words of a plain scalar. -/
def readPlainSpaces (cursor : Cursor) : PlainSpaces :=
  let (blanks, cursor) := cursor.span (· = ' ')
  if isBreak cursor.peek then
    let (lineBreak, cursor) := cursor.lineBreak
    if cursor.atDocumentMark then ⟨[], true, cursor⟩
    else
      match readPlainBreaks (cursor.rest.length + 1) [] cursor with
      | (none, cursor) => ⟨[], true, cursor⟩
      | (some breaks, cursor) => ⟨foldBreaks lineBreak breaks, true, cursor⟩
  else ⟨blanks, false, cursor⟩

/-- A plain scalar that is being read: its text, the blanks behind it, and whether a simple key may
start at the cursor. -/
structure PlainText where
  text : List Char
  spaces : List Char
  allowsKey : Bool
  cursor : Cursor

/-- Reads the words of a plain scalar. -/
def readPlainWords (inFlow : Bool) (indent : Int) : Nat → PlainText → PlainText
  | 0, plain => plain
  | fuel + 1, plain =>
    if plain.cursor.peek = '#' then plain
    else
      let word := plainWord inFlow plain.cursor.rest
      if word.isEmpty then plain
      else
        let spaces := readPlainSpaces (plain.cursor.skip word.length)
        let plain := ⟨plain.text ++ plain.spaces ++ word, spaces.text, spaces.brokeLine,
          spaces.cursor⟩
        if spaces.text.isEmpty || spaces.cursor.peek = '#' ||
            (!inFlow && (spaces.cursor.column : Int) < indent) then plain
        else readPlainWords inFlow indent fuel plain

/-- Reads a plain scalar inside a node of some indentation. -/
def readPlain (inFlow : Bool) (parentIndent : Int) (allowsKey : Bool) (cursor : Cursor) :
    PlainText :=
  readPlainWords inFlow (parentIndent + 1) (cursor.rest.length + 1) ⟨[], [], allowsKey, cursor⟩

end ModuleSystem.Yaml
