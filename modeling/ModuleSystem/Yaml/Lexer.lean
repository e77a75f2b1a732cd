import ModuleSystem.Yaml.Scalar

/-!
# From text to YAML tokens

The lexer turns indentation into tokens that open and close blocks. A scalar or a bracket may turn out
to be the key of a mapping once a colon follows it on its line; such a place is remembered as a
possible key, and the tokens of the mapping are put in front of it afterwards.
-/

namespace ModuleSystem.Yaml

/-- A place where a key may have started: the number of tokens before it and where it stands. Some
places have to be keys. -/
structure PossibleKey where
  position : Nat
  required : Bool
  index : Nat
  line : Nat
  column : Nat

/-- The state of the lexer. `brackets` is the depth of open brackets, `indents` the indentations of
the blocks around the current one, and `keys` holds one possible key for each depth. -/
structure Lexer where
  cursor : Cursor
  tokens : Array Token
  brackets : Nat
  indent : Int
  indents : List Int
  allowsKey : Bool
  keys : List (Nat × PossibleKey)

namespace Lexer

/-- The lexer at the start of a text. -/
def start (chars : List Char) : Lexer := ⟨.start chars, #[], 0, -1, [], true, []⟩

/-- Whether the cursor stands inside brackets. -/
def inFlow (lexer : Lexer) : Bool := lexer.brackets != 0

/-- Appends a token. -/
def push (lexer : Lexer) (token : Token) : Lexer :=
  { lexer with tokens := lexer.tokens.push token }

/-- Puts a token in front of the token at a position. -/
def insertAt (lexer : Lexer) (position : Nat) (token : Token) : Lexer :=
  { lexer with tokens := (lexer.tokens.extract 0 position).push token ++
      lexer.tokens.extract position lexer.tokens.size }

/-- Moves over blank lines and comments. A new line allows a key, unless it is inside brackets. -/
def skipToToken : Nat → Lexer → Lexer
  | 0, lexer => lexer
  | fuel + 1, lexer =>
    let cursor := lexer.cursor.skipComment
    if isBreak cursor.peek then
      skipToToken fuel { lexer with
        cursor := cursor.lineBreak.2
        allowsKey := !lexer.inFlow || lexer.allowsKey }
    else { lexer with cursor }

/-- Moves over a byte-order mark at the start of the text. -/
def skipMark (lexer : Lexer) : Lexer :=
  if lexer.cursor.index = 0 ∧ lexer.cursor.peek = '\uFEFF' then
    { lexer with cursor := lexer.cursor.next }
  else lexer

/-- Whether a possible key is too far back to be one: on another line, or too long. -/
def isStale (lexer : Lexer) (key : PossibleKey) : Bool :=
  key.line != lexer.cursor.line || 1024 < lexer.cursor.index - key.index

/-- Forgets the possible keys that are too far back. -/
def dropStaleKeys (lexer : Lexer) : Except Problem Lexer :=
  let stale := lexer.keys.filter fun entry => lexer.isStale entry.2
  if stale.any fun entry => entry.2.required then .error .missingColon
  else .ok { lexer with keys := lexer.keys.filter fun entry => !lexer.isStale entry.2 }

/-- The possible key at the current depth. -/
def key? (lexer : Lexer) : Option PossibleKey := lexer.keys.lookup lexer.brackets

/-- Forgets the possible key at the current depth. -/
def dropKey (lexer : Lexer) : Except Problem Lexer :=
  match lexer.key? with
  | some key =>
    if key.required then .error .missingColon
    else .ok { lexer with keys := lexer.keys.filter fun entry => entry.1 != lexer.brackets }
  | none => .ok lexer

/-- Remembers the cursor as a place where a key may start. A token that stands at the indentation of
its block has to be a key. -/
def saveKey (lexer : Lexer) : Except Problem Lexer :=
  if lexer.allowsKey then do
    let lexer ← lexer.dropKey
    let key : PossibleKey :=
      { position := lexer.tokens.size
        required := !lexer.inFlow && lexer.indent = lexer.cursor.column
        index := lexer.cursor.index
        line := lexer.cursor.line
        column := lexer.cursor.column }
    return { lexer with keys := (lexer.brackets, key) :: lexer.keys }
  else .ok lexer

/-- Closes the blocks that are indented deeper than a column. -/
def closeBlocks (column : Int) : List Int → Lexer → Lexer
  | [], lexer => lexer
  | outer :: outers, lexer =>
    if column < lexer.indent then
      closeBlocks column outers { lexer.push .blockEnd with indent := outer, indents := outers }
    else lexer

/-- Closes the blocks that are indented deeper than a column, outside brackets. -/
def unwind (lexer : Lexer) (column : Int) : Lexer :=
  if lexer.inFlow then lexer else closeBlocks column lexer.indents lexer

/-- Whether a column starts a deeper block. -/
def isDeeper (lexer : Lexer) (column : Nat) : Bool := lexer.indent < column

/-- Opens a block at a column. -/
def openBlock (lexer : Lexer) (column : Nat) : Lexer :=
  { lexer with indent := column, indents := lexer.indent :: lexer.indents }

/-- Moves over some characters and appends a token. -/
def take (lexer : Lexer) (count : Nat) (token : Token) : Lexer :=
  { lexer with cursor := lexer.cursor.skip count }.push token

/-- Ends what came before a directive, a document mark or the end of the text. -/
def endBlocks (lexer : Lexer) : Except Problem Lexer := do
  let lexer ← (lexer.unwind (-1)).dropKey
  return { lexer with allowsKey := false }

/-- Reads a run of digits as a number. -/
def readNumber (cursor : Cursor) : Except Problem (Nat × Cursor) :=
  match cursor.span Char.isDigit with
  | ([], _) => .error .invalidDirective
  | (digits, cursor) => .ok (digits.foldl (fun n c => 10 * n + (c.toNat - '0'.toNat)) 0, cursor)

/-- Reads a handle of a tag: an exclamation mark, or a word between two of them. -/
def readHandle (cursor : Cursor) : Except Problem (String × Cursor) :=
  if cursor.peek ≠ '!' then .error .invalidTag
  else
    let (word, behind) := cursor.next.span isWordChar
    if behind.peek = '!' then .ok (String.ofList ('!' :: word ++ ['!']), behind.next)
    else if word.isEmpty && behind.peek = ' ' then .ok ("!", behind)
    else .error .invalidTag

/-- Reads the bytes of a run of escapes in the suffix of a tag. -/
def readTagBytes : Nat → Cursor → Except Problem (List UInt8 × Cursor)
  | 0, cursor => .ok ([], cursor)
  | fuel + 1, cursor =>
    match cursor.rest with
    | '%' :: a :: b :: _ =>
      match Text.hexValue? a, Text.hexValue? b with
      | some high, some low => do
        let (bytes, cursor) ← readTagBytes fuel (cursor.skip 3)
        return (UInt8.ofNat (16 * high + low) :: bytes, cursor)
      | _, _ => .error .invalidTag
    | '%' :: _ => .error .invalidTag
    | _ => .ok ([], cursor)

/-- Reads the suffix of a tag, with escaped bytes. -/
def readTagText : Nat → List Char → Cursor → Except Problem (List Char × Cursor)
  | 0, text, cursor => .ok (text, cursor)
  | fuel + 1, text, cursor =>
    match cursor.rest with
    | [] => .ok (text, cursor)
    | c :: _ =>
      if c = '%' then do
        let (bytes, cursor) ← readTagBytes (cursor.rest.length) cursor
        match Text.readUtf8 bytes with
        | .ok chars => readTagText fuel (text ++ chars) cursor
        | .error _ => throw .invalidTag
      else if isTagChar c then readTagText fuel (text ++ [c]) cursor.next
      else .ok (text, cursor)

/-- Reads the suffix of a tag, which must not be empty. -/
def readTagSuffix (cursor : Cursor) : Except Problem (String × Cursor) := do
  let (text, behind) ← readTagText (cursor.rest.length + 1) [] cursor
  if behind.index = cursor.index then throw .invalidTag
  return (String.ofList text, behind)

/-- Reads the two numbers of a version directive. -/
def readVersion (cursor : Cursor) : Except Problem (Token × Cursor) := do
  let (major, cursor) ← readNumber (cursor.skipWhile (· = ' '))
  if cursor.peek ≠ '.' then throw .invalidDirective
  let (minor, cursor) ← readNumber cursor.next
  if !isSpaceOrBreak cursor.peek then throw .invalidDirective
  return (.versionDirective major minor, cursor)

/-- Reads the handle of a tag directive and what it stands for. -/
def readTagDirective (cursor : Cursor) : Except Problem (Token × Cursor) := do
  let (handle, cursor) ← readHandle (cursor.skipWhile (· = ' '))
  if cursor.peek ≠ ' ' then throw .invalidDirective
  let (start, cursor) ← readTagSuffix (cursor.skipWhile (· = ' '))
  if !isSpaceOrBreak cursor.peek then throw .invalidDirective
  return (.tagDirective handle start, cursor)

/-- Reads a directive with its line. -/
def readDirective (lexer : Lexer) : Except Problem Lexer := do
  let lexer ← lexer.endBlocks
  let (name, cursor) := lexer.cursor.next.span isWordChar
  if name.isEmpty || !isSpaceOrBreak cursor.peek then throw .invalidDirective
  let (token, cursor) ←
    if name = "YAML".toList then readVersion cursor
    else if name = "TAG".toList then readTagDirective cursor
    else pure (.otherDirective, cursor.skipWhile (!isBreakOrEnd ·))
  let cursor := cursor.skipComment
  if !isBreakOrEnd cursor.peek then throw .invalidDirective
  return { lexer with cursor := cursor.lineBreak.2 }.push token

/-- Reads the mark of a document's start or end. -/
def readDocumentMark (lexer : Lexer) : Except Problem Lexer := do
  let lexer ← lexer.endBlocks
  return lexer.take 3 (if lexer.cursor.peek = '-' then .documentStart else .documentEnd)

/-- Reads an opening bracket. -/
def readFlowStart (lexer : Lexer) (token : Token) : Except Problem Lexer := do
  let lexer ← lexer.saveKey
  return { lexer with brackets := lexer.brackets + 1, allowsKey := true }.take 1 token

/-- Reads a closing bracket. -/
def readFlowEnd (lexer : Lexer) (token : Token) : Except Problem Lexer := do
  let lexer ← lexer.dropKey
  if lexer.brackets = 0 then throw .unexpectedToken
  return { lexer with brackets := lexer.brackets - 1, allowsKey := false }.take 1 token

/-- Reads a comma inside brackets. -/
def readFlowEntry (lexer : Lexer) : Except Problem Lexer := do
  let lexer ← { lexer with allowsKey := true }.dropKey
  return lexer.take 1 .flowEntry

/-- Reads the dash of an item. -/
def readBlockEntry (lexer : Lexer) : Except Problem Lexer := do
  let lexer ←
    if lexer.inFlow then pure lexer
    else if !lexer.allowsKey then throw .misplacedEntry
    else if lexer.isDeeper lexer.cursor.column then
      pure ((lexer.openBlock lexer.cursor.column).push .blockSequenceStart)
    else pure lexer
  let lexer ← { lexer with allowsKey := true }.dropKey
  return lexer.take 1 .blockEntry

/-- Opens a mapping at the cursor if that is deeper than the block around it. -/
def openMapping (lexer : Lexer) : Lexer :=
  if lexer.isDeeper lexer.cursor.column then
    (lexer.openBlock lexer.cursor.column).push .blockMappingStart
  else lexer

/-- Reads the question mark of a key. -/
def readKey (lexer : Lexer) : Except Problem Lexer := do
  let lexer ←
    if lexer.inFlow then pure lexer
    else if !lexer.allowsKey then throw .misplacedEntry
    else pure lexer.openMapping
  let lexer ← { lexer with allowsKey := !lexer.inFlow }.dropKey
  return lexer.take 1 .key

/-- Reads the colon of a value. If a key was possible at this depth, it is one. -/
def readValue (lexer : Lexer) : Except Problem Lexer := do
  match lexer.key? with
  | some key =>
    let lexer := { lexer with keys := lexer.keys.filter fun entry => entry.1 != lexer.brackets }
    let lexer := lexer.insertAt key.position .key
    let lexer :=
      if !lexer.inFlow && lexer.isDeeper key.column then
        (lexer.openBlock key.column).insertAt key.position .blockMappingStart
      else lexer
    return { lexer with allowsKey := false }.take 1 .value
  | none =>
    let lexer ←
      if lexer.inFlow then pure lexer
      else if !lexer.allowsKey then throw .misplacedEntry
      else pure lexer.openMapping
    let lexer ← { lexer with allowsKey := !lexer.inFlow }.dropKey
    return lexer.take 1 .value

/-- Reads an alias or an anchor. -/
def readName (lexer : Lexer) (token : String → Token) : Except Problem Lexer := do
  let lexer ← lexer.saveKey
  let (name, cursor) := lexer.cursor.next.span isWordChar
  if name.isEmpty then throw .invalidName
  let next := cursor.peek
  if !isBlankOrBreak next && !"?:,]\x7d%@\x60".toList.contains next then throw .invalidName
  return { lexer with cursor, allowsKey := false }.push (token (String.ofList name))

/-- Whether an exclamation mark follows in a word. -/
def hasHandle : List Char → Bool
  | [] => false
  | c :: rest => if isSpaceOrBreak c then false else c = '!' || hasHandle rest

/-- Reads a tag: verbatim in angle brackets, the mark alone, or a suffix with or without a handle. -/
def readTag (lexer : Lexer) : Except Problem Lexer := do
  let lexer ← lexer.saveKey
  let cursor := lexer.cursor
  let next := cursor.peekAt 1
  let (handle, suffix, cursor) ←
    if next = '<' then do
      let (suffix, cursor) ← readTagSuffix (cursor.skip 2)
      if cursor.peek ≠ '>' then throw .invalidTag
      pure (none, suffix, cursor.next)
    else if isBlankOrBreak next then pure (none, "!", cursor.next)
    else if hasHandle (cursor.rest.drop 1) then do
      let (handle, cursor) ← readHandle cursor
      let (suffix, cursor) ← readTagSuffix cursor
      pure (some handle, suffix, cursor)
    else do
      let (suffix, cursor) ← readTagSuffix cursor.next
      pure (some "!", suffix, cursor)
  if !isSpaceOrBreak cursor.peek then throw .invalidTag
  return { lexer with cursor, allowsKey := false }.push (.tag handle suffix)

/-- Reads a block scalar. -/
def readBlockScalar (lexer : Lexer) : Except Problem Lexer := do
  let lexer ← { lexer with allowsKey := true }.dropKey
  let (text, cursor) ← readBlock lexer.indent lexer.cursor
  return { lexer with cursor }.push (.scalar false (String.ofList text))

/-- Reads a scalar in quotes. -/
def readQuotedScalar (lexer : Lexer) : Except Problem Lexer := do
  let lexer ← lexer.saveKey
  let (text, cursor) ← readQuoted lexer.cursor
  return { lexer with cursor, allowsKey := false }.push (.scalar false (String.ofList text))

/-- Reads a plain scalar. -/
def readPlainScalar (lexer : Lexer) : Except Problem Lexer := do
  let lexer ← lexer.saveKey
  let plain := readPlain lexer.inFlow lexer.indent false lexer.cursor
  return { lexer with cursor := plain.cursor, allowsKey := plain.allowsKey }.push
    (.scalar true (String.ofList plain.text))

/-- Whether a plain scalar may start at the cursor. -/
def startsPlain (lexer : Lexer) : Bool :=
  let c := lexer.cursor.peek
  (!isBlankOrBreak c && !"-?:,[]\x7b\x7d#&*!|>'\"%@\x60".toList.contains c) ||
    (!isBlankOrBreak (lexer.cursor.peekAt 1) &&
      (c = '-' || (!lexer.inFlow && (c = '?' || c = ':'))))

/-- Reads the next token, which is not the end of the text. -/
def readToken (lexer : Lexer) : Except Problem Lexer :=
  let cursor := lexer.cursor
  let c := cursor.peek
  let beforeBlank := isBlankOrBreak (cursor.peekAt 1)
  if c = '%' && cursor.column = 0 then lexer.readDirective
  else if cursor.column = 0 && cursor.atDocumentMark then lexer.readDocumentMark
  else if c = '[' then lexer.readFlowStart .flowSequenceStart
  else if c = '\x7b' then lexer.readFlowStart .flowMappingStart
  else if c = ']' then lexer.readFlowEnd .flowSequenceEnd
  else if c = '\x7d' then lexer.readFlowEnd .flowMappingEnd
  else if c = ',' then lexer.readFlowEntry
  else if c = '-' && beforeBlank then lexer.readBlockEntry
  else if c = '?' && (lexer.inFlow || beforeBlank) then lexer.readKey
  else if c = ':' && (lexer.inFlow || beforeBlank) then lexer.readValue
  else if c = '*' then lexer.readName .alias
  else if c = '&' then lexer.readName .anchor
  else if c = '!' then lexer.readTag
  else if (c = '|' || c = '>') && !lexer.inFlow then lexer.readBlockScalar
  else if c = '\'' || c = '"' then lexer.readQuotedScalar
  else if lexer.startsPlain then lexer.readPlainScalar
  else .error .unexpectedCharacter

/-- Reads tokens up to the end of the text. A problem ends them early. -/
def readTokens : Nat → Lexer → Array Token × Option Problem
  | 0, lexer => (lexer.tokens, some .unexpectedCharacter)
  | fuel + 1, lexer =>
    let lexer := skipToToken (lexer.cursor.rest.length + 1) lexer
    match lexer.dropStaleKeys with
    | .error problem => (lexer.tokens, some problem)
    | .ok lexer =>
      let lexer := lexer.unwind lexer.cursor.column
      if lexer.cursor.rest.isEmpty then
        match lexer.endBlocks with
        | .error problem => (lexer.tokens, some problem)
        | .ok lexer => (lexer.tokens.push .streamEnd, none)
      else
        match lexer.readToken with
        | .error problem => (lexer.tokens, some problem)
        | .ok lexer => readTokens fuel lexer

end Lexer

/-- The tokens of a text, and the problem that ended them if there is one. -/
def tokensOf (text : String) : List Token × Option Problem :=
  let chars := text.toList
  if chars.all isPrintable then
    let (tokens, problem) := (Lexer.start chars).skipMark.readTokens (chars.length + 2)
    (tokens.toList, problem)
  else ([], some .unprintable)

end ModuleSystem.Yaml
