import ModuleSystem.Text.Blank
import ModuleSystem.Xml.Name

/-!
# Parts of XML markup

Readers for the small parts that documents are made of: names, references, comments, processing
instructions, sections of literal text, and values in quotes. Each reader gives what it has read and
the text behind it.
-/

namespace ModuleSystem.Xml

/-- Why a text is no document. -/
inductive Problem where
  | noElement
  | junkAfterElement
  | unexpected
  | unclosed
  | mismatchedTag
  | duplicateAttribute
  | undefinedEntity
  | invalidCharacter
  | invalidReference
  | misplacedDeclaration
  | invalidDeclaration
  | entitiesDisabled
  deriving DecidableEq, Repr

/-- Characters that a document may hold. -/
def isLegal (c : Char) : Bool :=
  let n := c.toNat
  n = 9 || n = 10 || n = 13 || (0x20 ≤ n && n ≠ 0xFFFE && n ≠ 0xFFFF)

/-- Blanks between parts of markup. -/
def isSpace (c : Char) : Bool := c = ' ' || c = '\t' || c = '\n' || c = '\r'

/-- The text without leading blanks. -/
def skipSpace (chars : List Char) : List Char := chars.dropWhile isSpace

/-- Moves over at least one blank. -/
def requireSpace (chars : List Char) : Except Problem (List Char) :=
  match chars with
  | c :: rest => if isSpace c then .ok (skipSpace rest) else .error .unexpected
  | [] => .error .unclosed

/-- Moves over an expected text. -/
def expect (text : String) (chars : List Char) : Except Problem (List Char) :=
  match Text.after? text.toList chars with
  | some rest => .ok rest
  | none => .error .unexpected

/-- Reads a name. -/
def readName (chars : List Char) : Except Problem (List Char × List Char) :=
  match chars with
  | c :: _ =>
    if isNameStart c then .ok (chars.takeWhile isNameChar, chars.dropWhile isNameChar)
    else .error .unexpected
  | [] => .error .unclosed

/-- The characters of the entities that every document has. -/
def predefined : List (List Char × Char) :=
  [("lt".toList, '<'), ("gt".toList, '>'), ("amp".toList, '&'), ("quot".toList, '"'),
    ("apos".toList, '\'')]

/-- The character with a number, if a document may hold it. -/
def charOfNumber (n : Nat) : Except Problem Char :=
  if h : n.isValidChar then
    let c := Char.ofNatAux n h
    if isLegal c then .ok c else .error .invalidReference
  else .error .invalidReference

/-- Reads the number of a character reference in a base. -/
def readNumber (base : Nat) (chars : List Char) : Except Problem (Nat × List Char) :=
  let isDigit (c : Char) : Bool := if base = 16 then (Text.hexValue? c).isSome else c.isDigit
  let digits := chars.takeWhile isDigit
  if digits.isEmpty then .error .unexpected
  else .ok (digits.foldl (fun n c => base * n + (Text.hexValue? c).getD 0) 0,
    chars.dropWhile isDigit)

/-- Reads a reference from behind its sign on. An unknown entity stands for nothing if the document may
declare it elsewhere. -/
def readReference (mayBeDeclared : Bool) (chars : List Char) :
    Except Problem (List Char × List Char) := do
  match chars with
  | '#' :: 'x' :: rest =>
    let (n, rest) ← readNumber 16 rest
    let rest ← expect ";" rest
    return ([← charOfNumber n], rest)
  | '#' :: rest =>
    let (n, rest) ← readNumber 10 rest
    let rest ← expect ";" rest
    return ([← charOfNumber n], rest)
  | _ =>
    let (name, rest) ← readName chars
    let rest ← expect ";" rest
    match predefined.lookup name with
    | some c => return ([c], rest)
    | none => if mayBeDeclared then return ([], rest) else throw .undefinedEntity

/-- Reads a comment from behind its opening mark on. Two hyphens end it. -/
def skipComment : List Char → Except Problem (List Char)
  | [] => .error .unclosed
  | '-' :: '-' :: rest =>
    match rest with
    | '>' :: rest => .ok rest
    | _ => .error .unexpected
  | _ :: rest => skipComment rest

/-- Moves behind the end of a processing instruction. -/
def skipInstructionText : List Char → Except Problem (List Char)
  | [] => .error .unclosed
  | '?' :: '>' :: rest => .ok rest
  | _ :: rest => skipInstructionText rest

/-- Reads a processing instruction from behind its opening mark on. Its target must not be `xml`. -/
def skipInstruction (chars : List Char) : Except Problem (List Char) := do
  let (target, rest) ← readName chars
  if target.map Char.toLower = "xml".toList then throw .misplacedDeclaration
  match rest with
  | '?' :: '>' :: rest => return rest
  | c :: rest => if isSpace c then skipInstructionText rest else throw .unexpected
  | [] => throw .unclosed

/-- Reads a section of literal text from behind its opening mark on. -/
def readLiteral (read : List Char) : List Char → Except Problem (List Char × List Char)
  | [] => .error .unclosed
  | ']' :: ']' :: '>' :: rest => .ok (read.reverse, rest)
  | c :: rest => readLiteral (c :: read) rest

/-- Reads the value of an attribute up to its closing quote. Every blank counts as a space. -/
def readValue (mayBeDeclared : Bool) (quote : Char) :
    Nat → List Char → List Char → Except Problem (List Char × List Char)
  | 0, _, _ => .error .unclosed
  | _ + 1, _, [] => .error .unclosed
  | fuel + 1, read, c :: rest =>
    if c = quote then .ok (read.reverse, rest)
    else if c = '<' then .error .unexpected
    else if c = '&' then do
      let (chars, rest) ← readReference mayBeDeclared rest
      readValue mayBeDeclared quote fuel (chars.reverse ++ read) rest
    else readValue mayBeDeclared quote fuel ((if isSpace c then ' ' else c) :: read) rest

/-- Reads a text in quotes. -/
def readQuoted (chars : List Char) : Except Problem (List Char × List Char) :=
  match chars with
  | c :: rest =>
    if c = '"' ∨ c = '\'' then
      match rest.dropWhile (· ≠ c) with
      | [] => .error .unclosed
      | _ :: behind => .ok (rest.takeWhile (· ≠ c), behind)
    else .error .unexpected
  | [] => .error .unclosed

end ModuleSystem.Xml
