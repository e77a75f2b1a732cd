import ModuleSystem.Text.Charset.Utf8

/-!
# YAML tokens

The tokens of a YAML stream, the classes of characters that the lexer tells apart, and the cursor on
which it moves: the rest of the text with the line and the column of its first character. The end of
the text is shown as a null character, which no text may hold.
-/

namespace ModuleSystem.Yaml

/-- Why a text is no document. The first group is a matter of form; the other problems arise when the
value of a well-formed node is made. -/
inductive Problem where
  | unprintable
  | unexpectedCharacter
  | misplacedEntry
  | missingColon
  | invalidDirective
  | invalidName
  | invalidTag
  | invalidEscape
  | invalidBlockHeader
  | unterminated
  | unexpectedToken
  | undefinedAlias
  | duplicateAnchor
  | severalDocuments
  | unknownTag
  | wrongShape
  | unhashableKey
  | invalidBinary
  | codePointOutOfRange
  | codePointTooLarge
  | emptyNumber
  | badInteger (base : Nat) (text : String)
  | integerTooLong (digits : Nat)
  | badFloat (text : String)
  | badTruthValue (text : String)
  | badTimestamp
  | badCalendarValue (error : String)
  deriving DecidableEq, Repr

/-- The tokens of a stream. A tag is a handle, if there is one, and a suffix. -/
inductive Token where
  | streamEnd
  | versionDirective (major minor : Nat)
  | tagDirective (handle start : String)
  | otherDirective
  | documentStart
  | documentEnd
  | blockSequenceStart
  | blockMappingStart
  | blockEnd
  | flowSequenceStart
  | flowSequenceEnd
  | flowMappingStart
  | flowMappingEnd
  | flowEntry
  | blockEntry
  | key
  | value
  | alias (name : String)
  | anchor (name : String)
  | tag (handle : Option String) (suffix : String)
  | scalar (isPlain : Bool) (text : String)
  deriving DecidableEq, Repr

/-- What stands for the end of the text. -/
def endMark : Char := '\x00'

/-- Line breaks and the end of the text. -/
def isBreakOrEnd (c : Char) : Bool :=
  c = endMark || c = '\r' || c = '\n' || c = '\x85' || c = '\u2028' || c = '\u2029'

/-- Line breaks. -/
def isBreak (c : Char) : Bool := c ≠ endMark && isBreakOrEnd c

/-- Spaces, line breaks and the end of the text. -/
def isSpaceOrBreak (c : Char) : Bool := c = ' ' || isBreakOrEnd c

/-- Blanks, line breaks and the end of the text. -/
def isBlankOrBreak (c : Char) : Bool := c = '\t' || isSpaceOrBreak c

/-- Characters of names of anchors, handles and directives. -/
def isWordChar (c : Char) : Bool := c.isAlphanum || c = '-' || c = '_'

/-- Characters of the suffix of a tag. -/
def isTagChar (c : Char) : Bool := c.isAlphanum || "-;/?:@&=+$,_.!~*'()[]%".toList.contains c

/-- Characters that a stream may hold. -/
def isPrintable (c : Char) : Bool :=
  let n := c.toNat
  n = 9 || n = 10 || n = 13 || (0x20 ≤ n && n ≤ 0x7E) || n = 0x85 || (0xA0 ≤ n && n ≤ 0xD7FF) ||
    (0xE000 ≤ n && n ≤ 0xFFFD) || 0x10000 ≤ n

/-- The rest of a text, and where it starts. -/
structure Cursor where
  rest : List Char
  index : Nat
  line : Nat
  column : Nat
  deriving Repr

namespace Cursor

/-- The cursor at the start of a text. -/
def start (chars : List Char) : Cursor := ⟨chars, 0, 0, 0⟩

/-- The character some places ahead. -/
def peekAt (cursor : Cursor) (ahead : Nat) : Char := (cursor.rest.drop ahead).headD endMark

/-- The next character. -/
def peek (cursor : Cursor) : Char := cursor.rest.headD endMark

/-- Moves over one character. A line feed behind a carriage return ends the line, not the carriage
return itself. -/
def next (cursor : Cursor) : Cursor :=
  match cursor.rest with
  | [] => cursor
  | c :: rest =>
    if isBreak c && !(c = '\r' && rest.head? = some '\n') then
      ⟨rest, cursor.index + 1, cursor.line + 1, 0⟩
    else if c = '\uFEFF' then ⟨rest, cursor.index + 1, cursor.line, cursor.column⟩
    else ⟨rest, cursor.index + 1, cursor.line, cursor.column + 1⟩

/-- Moves over some characters. -/
def skip (cursor : Cursor) : Nat → Cursor
  | 0 => cursor
  | count + 1 => cursor.next.skip count

/-- Reads the characters at the front that satisfy a condition. -/
def span (cursor : Cursor) (accept : Char → Bool) : List Char × Cursor :=
  let chars := cursor.rest.takeWhile accept
  (chars, cursor.skip chars.length)

/-- Moves over the characters at the front that satisfy a condition. -/
def skipWhile (cursor : Cursor) (accept : Char → Bool) : Cursor := (cursor.span accept).2

/-- Reads a line break: a line feed for the breaks of ASCII and the next-line sign, the other two as
they are, and nothing if there is none. -/
def lineBreak (cursor : Cursor) : List Char × Cursor :=
  match cursor.rest with
  | '\r' :: '\n' :: _ => (['\n'], cursor.skip 2)
  | c :: _ =>
    if c = '\r' || c = '\n' || c = '\x85' then (['\n'], cursor.next)
    else if isBreak c then ([c], cursor.next)
    else ([], cursor)
  | [] => ([], cursor)

/-- Whether a line starts with the mark of a document's start or end. -/
def atDocumentMark (cursor : Cursor) : Bool :=
  let mark := cursor.rest.take 3
  (mark = ['-', '-', '-'] || mark = ['.', '.', '.']) && isBlankOrBreak (cursor.peekAt 3)

/-- Moves over a comment, if there is one, and blanks before it. -/
def skipComment (cursor : Cursor) : Cursor :=
  let cursor := cursor.skipWhile (· = ' ')
  if cursor.peek = '#' then cursor.skipWhile (!isBreakOrEnd ·) else cursor

end Cursor

end ModuleSystem.Yaml
