import ModuleSystem.Datum.Basic
import ModuleSystem.Decimal.Literal

/-!
# TOML documents

A reader of TOML. A document is a list of statements: a key with a value, a table header, or a header
of a table in an array. The document built so far is a mapping; beside it stand marks on key paths,
which say which tables have been declared and which values are closed to later statements.
-/

namespace ModuleSystem.Toml

open Text (trim)

/-- Why a text is no document. -/
inductive Problem where
  | invalidStatement
  | invalidKey
  | invalidValue
  | invalidDate
  | invalidEscape
  | invalidCharacter
  | unterminatedString
  | unclosedArray
  | unclosedTable
  | unclosedHeader
  | expectedEquals
  | expectedLineEnd
  | declaredTwice
  | closedNamespace
  | overwritten
  | integerTooLong (digits : Nat)
  deriving DecidableEq, Repr

/-- A dotted key. -/
abbrev Key : Type := List String

/-- Blanks within a line. -/
def isSpace (c : Char) : Bool := c = ' ' || c = '\t'

/-- Blanks within a line and line ends. -/
def isSpaceOrNewline (c : Char) : Bool := isSpace c || c = '\n'

/-- Control characters of ASCII. -/
def isControl (c : Char) : Bool := c.toNat < 32 || c.toNat = 127

/-- Characters that no comment and no string on one line may hold. -/
def isIllegal (c : Char) : Bool := isControl c && c ≠ '\t'

/-- Characters that no string over several lines may hold. -/
def isIllegalInLines (c : Char) : Bool := isIllegal c && c ≠ '\n'

/-- Characters of a key without quotes. -/
def isBareKeyChar (c : Char) : Bool := c.isAlphanum || c = '-' || c = '_'

/-- Skips a comment up to the end of its line. -/
def skipComment (chars : List Char) : Except Problem (List Char) :=
  match chars with
  | '#' :: rest =>
    let comment := rest.takeWhile (· ≠ '\n')
    if comment.any isIllegal then .error .invalidCharacter else .ok (rest.dropWhile (· ≠ '\n'))
  | _ => .ok chars

/-- Skips blanks, line ends and comments. -/
def skipBetween : Nat → List Char → Except Problem (List Char)
  | 0, chars => .ok chars
  | fuel + 1, chars =>
    match chars.dropWhile isSpaceOrNewline with
    | '#' :: rest => do
      let rest ← skipComment ('#' :: rest)
      skipBetween fuel rest
    | rest => .ok rest

/-- The number of a text of hexadecimal digits. -/
def hexNumber? (chars : List Char) : Option Nat :=
  chars.foldlM (fun n c => (Text.hexValue? c).map (16 * n + ·)) 0

/-- Reads the character of an escape with a given count of hexadecimal digits. -/
def readHexChar (count : Nat) (chars : List Char) : Except Problem (Char × List Char) :=
  let digits := chars.take count
  match if digits.length = count then hexNumber? digits else none with
  | some n => if h : n.isValidChar then .ok (Char.ofNatAux n h, chars.drop count)
    else .error .invalidEscape
  | none => .error .invalidEscape

/-- Reads what follows a backslash: a character, or nothing for a line end that is skipped. -/
def readEscape (inLines : Bool) (chars : List Char) :
    Except Problem (Option Char × List Char) :=
  match chars with
  | [] => .error .invalidEscape
  | c :: rest =>
    if inLines && isSpaceOrNewline c then
      if c = '\n' then .ok (none, rest.dropWhile isSpaceOrNewline)
      else
        match rest.dropWhile isSpace with
        | [] => .ok (none, [])
        | '\n' :: more => .ok (none, more.dropWhile isSpaceOrNewline)
        | _ => .error .invalidEscape
    else
      match c with
      | 'b' => .ok (some '\x08', rest)
      | 't' => .ok (some '\t', rest)
      | 'n' => .ok (some '\n', rest)
      | 'f' => .ok (some '\x0c', rest)
      | 'r' => .ok (some '\r', rest)
      | '"' => .ok (some '"', rest)
      | '\\' => .ok (some '\\', rest)
      | 'u' => (readHexChar 4 rest).map fun r => (some r.1, r.2)
      | 'U' => (readHexChar 8 rest).map fun r => (some r.1, r.2)
      | _ => .error .invalidEscape

/-- Reads the inside of a string with escapes up to its closing quotes. `read` holds the characters so
far, the last one first. -/
def readBasic (inLines : Bool) :
    Nat → List Char → List Char → Except Problem (List Char × List Char)
  | 0, _, _ => .error .unterminatedString
  | _ + 1, _, [] => .error .unterminatedString
  | fuel + 1, read, c :: rest =>
    if c = '"' then
      if inLines then
        match rest with
        | '"' :: '"' :: more => .ok (read.reverse, more)
        | _ => readBasic inLines fuel (c :: read) rest
      else .ok (read.reverse, rest)
    else if c = '\\' then do
      let (char?, rest) ← readEscape inLines rest
      readBasic inLines fuel (char?.toList ++ read) rest
    else if (if inLines then isIllegalInLines c else isIllegal c) then .error .invalidCharacter
    else readBasic inLines fuel (c :: read) rest

/-- Reads the inside of a string without escapes up to its closing quote. -/
def readLiteral (chars : List Char) : Except Problem (List Char × List Char) :=
  let inside := chars.takeWhile (· ≠ '\'')
  match chars.dropWhile (· ≠ '\'') with
  | [] => .error .unterminatedString
  | _ :: rest => if inside.any isIllegal then .error .invalidCharacter else .ok (inside, rest)

/-- Reads the inside of a string without escapes up to three closing quotes. -/
def readLiteralLines (read : List Char) : List Char → Except Problem (List Char × List Char)
  | [] => .error .unterminatedString
  | '\'' :: '\'' :: '\'' :: rest =>
    if read.any isIllegalInLines then .error .invalidCharacter else .ok (read.reverse, rest)
  | c :: rest => readLiteralLines (c :: read) rest

/-- Takes up to two more quotes, which belong to the string, behind three closing ones. -/
def takeExtraQuotes (quote : Char) (inside rest : List Char) : List Char × List Char :=
  let extra := (rest.take 2).takeWhile (· = quote)
  (inside ++ extra, rest.drop extra.length)

/-- Skips one line end. -/
def skipNewline : List Char → List Char
  | '\n' :: rest => rest
  | chars => chars

/-- Reads a string that starts with a quote, on one line or over several. -/
def readText (chars : List Char) : Except Problem (List Char × List Char) :=
  match chars with
  | '"' :: '"' :: '"' :: rest => do
    let (inside, rest) ← readBasic true (rest.length + 1) [] (skipNewline rest)
    return takeExtraQuotes '"' inside rest
  | '"' :: rest => readBasic false (rest.length + 1) [] rest
  | '\'' :: '\'' :: '\'' :: rest => do
    let (inside, rest) ← readLiteralLines [] (skipNewline rest)
    return takeExtraQuotes '\'' inside rest
  | '\'' :: rest => readLiteral rest
  | _ => .error .invalidValue

/-- Reads one part of a key. -/
def readKeyPart (chars : List Char) : Except Problem (String × List Char) :=
  match chars with
  | '\'' :: rest => (readLiteral rest).map fun r => (String.ofList r.1, r.2)
  | '"' :: rest =>
    (readBasic false (rest.length + 1) [] rest).map fun r => (String.ofList r.1, r.2)
  | _ =>
    let bare := chars.takeWhile isBareKeyChar
    if bare.isEmpty then .error .invalidKey
    else .ok (String.ofList bare, chars.dropWhile isBareKeyChar)

/-- Reads a key with its dotted parts, and the blanks behind it. -/
def readKey : Nat → List Char → Except Problem (Key × List Char)
  | 0, _ => .error .invalidKey
  | fuel + 1, chars => do
    let (part, rest) ← readKeyPart chars
    match rest.dropWhile isSpace with
    | '.' :: rest => do
      let (key, rest) ← readKey fuel (rest.dropWhile isSpace)
      return (part :: key, rest)
    | rest => return ([part], rest)

/-- Reads a number of exactly `count` digits between two bounds. -/
def readDigits? (count low high : Nat) (chars : List Char) : Option (Nat × List Char) :=
  let digits := chars.take count
  if digits.length = count ∧ digits.all Char.isDigit then
    let n := Decimal.digitsValue digits
    if low ≤ n ∧ n ≤ high then some (n, chars.drop count) else none
  else none

/-- Reads an expected character. -/
def readChar? (expected : Char → Bool) : List Char → Option (List Char)
  | c :: rest => if expected c then some rest else none
  | [] => none

/-- The microseconds of a fraction: six digits count, the others are cut off. -/
def microseconds (digits : List Char) : Nat :=
  let kept := digits.take 6
  Decimal.digitsValue kept * Decimal.powerOfTen (6 - kept.length)

/-- Reads a time of day. -/
def readTime? (chars : List Char) : Option (Time × List Char) := do
  let (hour, rest) ← readDigits? 2 0 23 chars
  let rest ← readChar? (· = ':') rest
  let (minute, rest) ← readDigits? 2 0 59 rest
  let rest ← readChar? (· = ':') rest
  let (second, rest) ← readDigits? 2 0 59 rest
  match rest with
  | '.' :: more =>
    let digits := more.takeWhile Char.isDigit
    if digits.isEmpty then return (⟨hour, minute, second, 0⟩, rest)
    else return (⟨hour, minute, second, microseconds digits⟩, more.dropWhile Char.isDigit)
  | _ => return (⟨hour, minute, second, 0⟩, rest)

/-- Reads a distance from universal time with its sign. -/
def readOffset? (chars : List Char) : Option (Int × List Char) := do
  let negative := chars.head? = some '-'
  let rest ← readChar? (fun c => c = '+' || c = '-') chars
  let (hours, rest) ← readDigits? 2 0 23 rest
  let rest ← readChar? (· = ':') rest
  let (minutes, rest) ← readDigits? 2 0 59 rest
  let seconds : Int := 3600 * hours + 60 * minutes
  return (if negative then -seconds else seconds, rest)

/-- Reads the time of day and the zone behind a date, if they are there. -/
def readTimeOfMoment? (chars : List Char) : Option (Time × Option Int × List Char) := do
  let rest ← readChar? (fun c => c = 'T' || c = 't' || c = ' ') chars
  let (time, rest) ← readTime? rest
  match rest with
  | c :: more =>
    if c = 'Z' ∨ c = 'z' then return (time, some 0, more)
    else
      match readOffset? rest with
      | some (seconds, rest) => return (time, some seconds, rest)
      | none => return (time, none, rest)
  | [] => return (time, none, [])

/-- Reads a date, with a time of day and a zone if they are there. The day has to exist. -/
def readMoment? (chars : List Char) : Option (Except Problem (Datum × List Char)) := do
  let (year, rest) ← readDigits? 4 0 9999 chars
  let rest ← readChar? (· = '-') rest
  let (month, rest) ← readDigits? 2 1 12 rest
  let rest ← readChar? (· = '-') rest
  let (day, rest) ← readDigits? 2 1 31 rest
  match Date.check year month day with
  | .error _ => return .error .invalidDate
  | .ok date =>
    match readTimeOfMoment? rest with
    | some (time, offset, rest) => return .ok (.scalar (.moment ⟨date, time, offset⟩), rest)
    | none => return .ok (.scalar (.date date), rest)

/-- Cuts off digits of a base with single underscores between them. -/
def spanBase (isDigit : Char → Bool) : List Char → List Char × List Char
  | [] => ([], [])
  | c :: rest =>
    if isDigit c then
      let (digits, tail) := spanBase isDigit rest
      (c :: digits, tail)
    else if c = '_' && (rest.head?.map isDigit).getD false then spanBase isDigit rest
    else ([], c :: rest)

/-- Cuts off digits of a base that start with a digit. -/
def spanDigits (isDigit : Char → Bool) (chars : List Char) : List Char × List Char :=
  if (chars.head?.map isDigit).getD false then spanBase isDigit chars else ([], chars)

/-- The whole number of digits of a base. -/
def baseValue (base : Nat) (digits : List Char) : Nat :=
  digits.foldl (fun n c => base * n + (Text.hexValue? c).getD 0) 0

/-- Reads a whole number with a base mark. -/
def readBased? (chars : List Char) : Option (Datum × List Char) :=
  let read (base : Nat) (isDigit : Char → Bool) (rest : List Char) : Option (Datum × List Char) :=
    match spanDigits isDigit rest with
    | ([], _) => none
    | (digits, tail) => some (.int (baseValue base digits), tail)
  match chars with
  | '0' :: 'x' :: rest => read 16 (fun c => (Text.hexValue? c).isSome) rest
  | '0' :: 'b' :: rest => read 2 (fun c => c = '0' || c = '1') rest
  | '0' :: 'o' :: rest => read 8 (fun c => '0' ≤ c && c ≤ '7') rest
  | _ => none

/-- Reads a fraction that has digits. -/
def readFraction (chars : List Char) : List Char × List Char :=
  match chars with
  | '.' :: rest =>
    match spanDigits Char.isDigit rest with
    | ([], _) => ([], chars)
    | parts => parts
  | _ => ([], chars)

/-- Reads an exponent that has digits. -/
def readExponent (chars : List Char) : Option Int × List Char :=
  match chars with
  | c :: rest =>
    if c = 'e' ∨ c = 'E' then
      let (negative, rest) := Decimal.spanSign rest
      match spanDigits Char.isDigit rest with
      | ([], _) => (none, chars)
      | (digits, tail) =>
        let n : Int := Decimal.digitsValue digits
        (some (if negative then -n else n), tail)
    else (none, chars)
  | [] => (none, [])

/-- Reads a number in base ten: whole unless it has a fraction or an exponent. -/
def readDecimal? (chars : List Char) : Option (Except Problem (Datum × List Char)) :=
  let (negative, body) := Decimal.spanSign chars
  let (whole, rest) := match body with
    | '0' :: rest => (['0'], rest)
    | _ => spanDigits Char.isDigit body
  if whole.isEmpty then none
  else
    let (fraction, rest) := readFraction rest
    let (exponent, rest) := readExponent rest
    if fraction.isEmpty && exponent.isNone then
      if whole.length > Decimal.digitLimit then some (.error (.integerTooLong whole.length))
      else
        let size : Int := Decimal.digitsValue whole
        some (.ok (.int (if negative then -size else size), rest))
    else
      some (.ok (.float (Decimal.floatOfParts negative whole fraction (exponent.getD 0)), rest))

/-- The values that are written as words. -/
def wordValues : List (List Char × Datum) :=
  let infinity := Float.ofBits 0x7FF0000000000000
  let minusInfinity := Float.ofBits 0xFFF0000000000000
  let notANumber := Float.ofBits 0x7FF8000000000000
  [("inf".toList, .float infinity), ("+inf".toList, .float infinity),
    ("-inf".toList, .float minusInfinity), ("nan".toList, .float notANumber),
    ("+nan".toList, .float notANumber), ("-nan".toList, .float notANumber),
    ("true".toList, .bool true), ("false".toList, .bool false)]

/-- Reads a date, a time, a number or a word. -/
def readPlain (chars : List Char) : Except Problem (Datum × List Char) :=
  match readMoment? chars with
  | some reading => reading
  | none =>
    match readTime? chars with
    | some (time, rest) => .ok (.scalar (.time time), rest)
    | none =>
      match readBased? chars with
      | some reading => .ok reading
      | none =>
        match readDecimal? chars with
        | some reading => reading
        | none =>
          let word? := wordValues.findSome? fun (word, value) =>
            (Text.after? word chars).map fun rest => (value, rest)
          match word? with
          | some reading => .ok reading
          | none => .error .invalidValue

/-- Whether a value is a container, which later statements must not change. -/
def isContainer : Datum → Bool
  | .dict _ | .list _ => true
  | _ => false

/-- Changes the mapping behind a key path, making the tables on the way that are missing. A table in an
array stands for the last one of the array, if arrays may be entered. -/
def updateNest (throughArrays : Bool)
    (change : List (Datum × Datum) → Except Problem (List (Datum × Datum))) :
    Key → List (Datum × Datum) → Except Problem (List (Datum × Datum))
  | [], entries => change entries
  | part :: key, entries => do
    match (Datum.field? part entries).getD (.dict []) with
    | .dict inner =>
      let inner ← updateNest throughArrays change key inner
      return Datum.insert (.text part) (.dict inner) entries
    | .list items =>
      match throughArrays, items.getLast? with
      | true, some (.dict inner) =>
        let inner ← updateNest throughArrays change key inner
        return Datum.insert (.text part) (.list (items.dropLast ++ [.dict inner])) entries
      | _, _ => throw .overwritten
    | _ => throw .overwritten

/-- Stores a value under a key that has none. -/
def storeNew (name : String) (value : Datum) (entries : List (Datum × Datum)) :
    Except Problem (List (Datum × Datum)) :=
  if (Datum.field? name entries).isSome then .error .overwritten
  else .ok (Datum.insert (.text name) value entries)

/-- Whether a key path starts with one of the marked paths. -/
def isBelow (marked : List Key) (key : Key) : Bool := marked.any fun path => path.isPrefixOf key

/-- The last part of a key. -/
def stem (key : Key) : String := key.getLast?.getD ""

mutual

/-- Reads a value. The first argument bounds the number of steps. -/
def readValue : Nat → List Char → Except Problem (Datum × List Char)
  | 0, _ => .error .invalidValue
  | fuel + 1, chars =>
    match chars with
    | '"' :: _ => (readText chars).map fun r => (.text (String.ofList r.1), r.2)
    | '\'' :: _ => (readText chars).map fun r => (.text (String.ofList r.1), r.2)
    | '[' :: rest => do
      let rest ← skipBetween rest.length rest
      readItems fuel [] rest
    | '\x7b' :: rest =>
      match rest.dropWhile isSpace with
      | '\x7d' :: rest => .ok (.dict [], rest)
      | rest => readInline fuel [] [] rest
    | _ => readPlain chars

/-- Reads the items of an array up to its closing bracket. -/
def readItems : Nat → List Datum → List Char → Except Problem (Datum × List Char)
  | 0, _, _ => .error .unclosedArray
  | fuel + 1, items, chars =>
    match chars with
    | ']' :: rest => .ok (.list items.reverse, rest)
    | _ => do
      let (value, rest) ← readValue fuel chars
      let rest ← skipBetween rest.length rest
      match rest with
      | ']' :: rest => return (.list (value :: items).reverse, rest)
      | ',' :: rest =>
        let rest ← skipBetween rest.length rest
        readItems fuel (value :: items) rest
      | _ => throw .unclosedArray

/-- Reads the entries of a table on one line up to its closing bracket. `closed` holds the keys of the
containers before. -/
def readInline : Nat → List Key → List (Datum × Datum) → List Char →
    Except Problem (Datum × List Char)
  | 0, _, _, _ => .error .unclosedTable
  | fuel + 1, closed, entries, chars => do
    let (key, rest) ← readKey chars.length chars
    match rest with
    | '=' :: rest =>
      let (value, rest) ← readValue fuel (rest.dropWhile isSpace)
      if isBelow closed key then throw .closedNamespace
      let entries ← updateNest false (storeNew (stem key) value) key.dropLast entries
      match rest.dropWhile isSpace with
      | '\x7d' :: rest => return (.dict entries, rest)
      | ',' :: rest =>
        let closed := if isContainer value then key :: closed else closed
        readInline fuel closed entries (rest.dropWhile isSpace)
      | _ => throw .unclosedTable
    | _ => throw .expectedEquals

end

/-- A document that is being read: the header that new keys belong to, the tables that are declared,
those that will be once another header is read, and the containers that are closed. -/
structure Draft where
  entries : List (Datum × Datum)
  header : Key
  declared : List Key
  pending : List Key
  closed : List Key

/-- The draft before the first statement. -/
def Draft.empty : Draft := ⟨[], [], [], [], []⟩

/-- The proper parts of a dotted key from its front that are not empty, below a header. -/
def dottedNests (header key : Key) : List Key :=
  (List.range (key.length - 1)).map fun i => header ++ key.take (i + 1)

/-- Stores a value under a key below the header. -/
def Draft.assign (draft : Draft) (key : Key) (value : Datum) : Except Problem Draft := do
  let nests := dottedNests draft.header key
  if nests.any draft.declared.contains then throw .declaredTwice
  let parent := draft.header ++ key.dropLast
  if isBelow draft.closed parent then throw .closedNamespace
  let entries ← updateNest true (storeNew (stem key) value) parent draft.entries
  return { draft with
    entries
    pending := nests ++ draft.pending
    closed := if isContainer value then (draft.header ++ key) :: draft.closed else draft.closed }

/-- Declares the tables that were waiting for the next header. -/
def Draft.settlePending (draft : Draft) : Draft :=
  { draft with declared := draft.pending ++ draft.declared, pending := [] }

/-- Declares a table. -/
def Draft.openTable (draft : Draft) (key : Key) : Except Problem Draft := do
  if draft.declared.contains key || isBelow draft.closed key then throw .declaredTwice
  let entries ← updateNest true .ok key draft.entries
  return { draft with entries, header := key, declared := key :: draft.declared }

/-- Appends an empty table to an array of tables. -/
def appendTable (name : String) (entries : List (Datum × Datum)) :
    Except Problem (List (Datum × Datum)) :=
  match Datum.field? name entries with
  | none => .ok (Datum.insert (.text name) (.list [.dict []]) entries)
  | some (.list items) => .ok (Datum.insert (.text name) (.list (items ++ [.dict []])) entries)
  | some _ => .error .overwritten

/-- Starts a new table of an array. What was declared or closed below its key is open again. -/
def Draft.openItem (draft : Draft) (key : Key) : Except Problem Draft := do
  if isBelow draft.closed key then throw .closedNamespace
  let entries ← updateNest true (appendTable (stem key)) key.dropLast draft.entries
  return { draft with
    entries
    header := key
    declared := key :: draft.declared.filter (!key.isPrefixOf ·)
    closed := draft.closed.filter (!key.isPrefixOf ·) }

/-- Reads one statement that is neither a comment nor empty. -/
def readStatement (draft : Draft) (chars : List Char) : Except Problem (Draft × List Char) :=
  match chars with
  | '[' :: '[' :: rest => do
    let rest := rest.dropWhile isSpace
    let (key, rest) ← readKey rest.length rest
    let draft ← draft.settlePending.openItem key
    match rest with
    | ']' :: ']' :: rest => return (draft, rest)
    | _ => throw .unclosedHeader
  | '[' :: rest => do
    let rest := rest.dropWhile isSpace
    let (key, rest) ← readKey rest.length rest
    let draft ← draft.settlePending.openTable key
    match rest with
    | ']' :: rest => return (draft, rest)
    | _ => throw .unclosedHeader
  | c :: _ => do
    if !isBareKeyChar c && c ≠ '"' && c ≠ '\'' then throw .invalidStatement
    let (key, rest) ← readKey chars.length chars
    match rest with
    | '=' :: rest =>
      let (value, rest) ← readValue (rest.length + 1) (rest.dropWhile isSpace)
      let draft ← draft.assign key value
      return (draft, rest)
    | _ => throw .expectedEquals
  | [] => .error .invalidStatement

/-- Reads the lines of a document. -/
def readLines : Nat → Draft → List Char → Except Problem Draft
  | 0, draft, _ => .ok draft
  | fuel + 1, draft, chars => do
    match chars.dropWhile isSpace with
    | [] => return draft
    | '\n' :: rest => readLines fuel draft rest
    | '#' :: rest => finishLine fuel draft ('#' :: rest)
    | c :: rest =>
      let (draft, rest) ← readStatement draft (c :: rest)
      finishLine fuel draft (rest.dropWhile isSpace)
where
  /-- Reads a comment and the end of the line, then the lines that follow. -/
  finishLine (fuel : Nat) (draft : Draft) (chars : List Char) : Except Problem Draft := do
    match ← skipComment chars with
    | [] => return draft
    | '\n' :: rest => readLines fuel draft rest
    | _ => throw .expectedLineEnd

/-- A line end of two characters becomes one of one character. -/
def joinLineEnds : List Char → List Char
  | [] => []
  | '\r' :: '\n' :: rest => '\n' :: joinLineEnds rest
  | c :: rest => c :: joinLineEnds rest

/-- Reads a text as one document. -/
def read (text : String) : Except Problem Datum :=
  let chars := joinLineEnds text.toList
  (readLines (chars.length + 1) .empty chars).map fun draft => .dict draft.entries

/-- Why a text is no document, in words. -/
def Problem.message : Problem → String
  | .invalidStatement => "Invalid statement"
  | .invalidKey => "Invalid initial character for a key part"
  | .invalidValue => "Invalid value"
  | .invalidDate => "Invalid date or datetime"
  | .invalidEscape => "Invalid escape in a string"
  | .invalidCharacter => "Found invalid character"
  | .unterminatedString => "Unterminated string"
  | .unclosedArray => "Unclosed array"
  | .unclosedTable => "Unclosed inline table"
  | .unclosedHeader => "Expected ']' at the end of a table declaration"
  | .expectedEquals => "Expected '=' after a key in a key/value pair"
  | .expectedLineEnd => "Expected newline or end of document after a statement"
  | .declaredTwice => "Cannot declare a table twice"
  | .closedNamespace => "Cannot mutate immutable namespace"
  | .overwritten => "Cannot overwrite a value"
  | .integerTooLong digits => "Exceeds the limit (" ++ toString Decimal.digitLimit ++
      " digits) for integer string conversion: value has " ++ toString digits ++
      " digits; use sys.set_int_max_str_digits() to increase the limit"

end ModuleSystem.Toml
