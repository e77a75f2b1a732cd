import ModuleSystem.Datum.Order
import ModuleSystem.Datum.Text

/-!
# Values laid out on lines

A value is written on one line if it fits into eighty columns, otherwise a container puts each item on
a line of its own and a long text is cut between words. Mappings are listed by key. The allowance is
the room that closing brackets need behind the last item of a container.
-/

namespace ModuleSystem

namespace Text

/-- Characters that end a line, apart from a carriage return before a line feed. -/
def isLineEnd (c : Char) : Bool :=
  let n := c.toNat
  (10 ≤ n && n ≤ 13) || (28 ≤ n && n ≤ 30) || n == 0x85 || n == 0x2028 || n == 0x2029

/-- Puts a character in front of the first line. -/
def consLine (c : Char) : List (List Char) → List (List Char)
  | [] => [[c]]
  | line :: lines => (c :: line) :: lines

/-- The lines of a text with their ends. -/
def linesWithEnds : List Char → List (List Char)
  | [] => []
  | '\r' :: '\n' :: rest => ['\r', '\n'] :: linesWithEnds rest
  | c :: rest => if isLineEnd c then [c] :: linesWithEnds rest else consLine c (linesWithEnds rest)

/-- The words of a line, each with the blanks behind it. The flag tells that the word before has
reached its blanks. -/
def wordsWithBlanks (inBlanks : Bool) : List Char → List (List Char)
  | [] => [[]]
  | c :: rest =>
    if isBlank c then consLine c (wordsWithBlanks true rest)
    else if inBlanks then [] :: consLine c (wordsWithBlanks false rest)
    else consLine c (wordsWithBlanks false rest)

end Text

namespace Datum

/-- The number of columns. -/
def columns : Int := 80

mutual

/-- The form of a value on one line, with mappings listed by key. -/
def compact : Datum → String
  | .dict entries =>
    "\x7b" ++ ", ".intercalate ((sortByKey (compactEntries entries)).map Prod.snd) ++ "\x7d"
  | .list items => "[" ++ ", ".intercalate (compactItems items) ++ "]"
  | .tuple [item] => "(" ++ compact item ++ ",)"
  | .tuple items => "(" ++ ", ".intercalate (compactItems items) ++ ")"
  | value => value.repr

/-- The one-line forms of the items of a sequence. -/
def compactItems : List Datum → List String
  | [] => []
  | item :: rest => compact item :: compactItems rest

/-- The one-line forms of the entries of a mapping, with their keys. -/
def compactEntries : List (Datum × Datum) → List (Datum × String)
  | [] => []
  | (key, value) :: rest => (key, compact key ++ ": " ++ compact value) :: compactEntries rest

end

/-- The quoted form of a text given by its characters. -/
def quotedLine (chars : List Char) : String := String.ofList (Text.quoteChars chars)

/-- Packs words into quoted pieces as long as a piece fits; the last piece of the text has less room
than the others. -/
def packWords (width lastWidth : Int) (isLastLine : Bool) (current : List Char) :
    List (List Char) → List String
  | [] => if current.isEmpty then [] else [quotedLine current]
  | word :: rest =>
    let candidate := current ++ word
    let room := if rest.isEmpty && isLastLine then lastWidth else width
    if room < (quotedLine candidate).length then
      (if current.isEmpty then [] else [quotedLine current]) ++
        packWords width lastWidth isLastLine word rest
    else packWords width lastWidth isLastLine candidate rest

/-- The quoted pieces of the lines of a long text. -/
def textPieces (width lastWidth : Int) : List (List Char) → List String
  | [] => []
  | line :: rest =>
    let room := if rest.isEmpty then lastWidth else width
    let whole := quotedLine line
    (if (whole.length : Int) ≤ room then [whole]
      else packWords width lastWidth rest.isEmpty [] (Text.wordsWithBlanks false line)) ++
        textPieces width lastWidth rest

/-- Cuts a byte string into groups of four. -/
def groupsOfFour : List UInt8 → List (List UInt8)
  | a :: b :: c :: d :: rest => [a, b, c, d] :: groupsOfFour rest
  | [] => []
  | rest => [rest]

/-- Packs groups of bytes into quoted pieces as long as a piece fits. A last group of fewer than four
bytes has less room. -/
def packBytes (width lastWidth : Int) (current : List UInt8) : List (List UInt8) → List String
  | [] => if current.isEmpty then [] else [Text.quotedBytes current]
  | group :: rest =>
    let candidate := current ++ group
    let room := if rest.isEmpty && group.length < 4 then lastWidth else width
    if room < (Text.quotedBytes candidate).length then
      (if current.isEmpty then [] else [Text.quotedBytes current]) ++
        packBytes width lastWidth group rest
    else packBytes width lastWidth candidate rest

/-- A line break followed by an indentation. -/
def newLine (indent : Nat) : String := "\n" ++ String.ofList (List.replicate indent ' ')

/-- Pieces on lines of their own; at top level they stand in parentheses. -/
def layoutPieces (indent : Nat) (isTop : Bool) (pieces : List String) : String :=
  let body := (newLine indent).intercalate pieces
  if isTop then "(" ++ body ++ ")" else body

/-- A long text. At top level one column goes to the parenthesis. -/
def layoutText (indent allowance : Nat) (isTop : Bool) (s : String) : String :=
  let indent := if isTop then indent + 1 else indent
  let allowance := if isTop then allowance + 1 else allowance
  let width := columns - indent
  match textPieces width (width - allowance) (Text.linesWithEnds s.toList) with
  | [] => Text.quoted s
  | [piece] => piece
  | pieces => layoutPieces indent isTop pieces

/-- A long byte string. -/
def layoutBytes (indent allowance : Nat) (isTop : Bool) (b : List UInt8) : String :=
  if b.length ≤ 4 then Text.quotedBytes b
  else
    let indent := if isTop then indent + 1 else indent
    let allowance := if isTop then allowance + 1 else allowance
    let width := columns - indent
    layoutPieces indent isTop (packBytes width (width - allowance) [] (groupsOfFour b))

/-- A part of a container: the text in front of it, and its layout for an indentation and an
allowance. -/
structure Part where
  label : String
  body : Nat → Nat → String

/-- Parts on lines of their own. Only the last one needs room for the closing brackets; the comma
behind the others takes one column. -/
def layoutParts (indent allowance : Nat) : List Part → String
  | [] => ""
  | [part] => part.label ++ part.body (indent + part.label.length) allowance
  | part :: next :: rest =>
    part.label ++ part.body (indent + part.label.length) 1 ++ "," ++ newLine indent ++
      layoutParts indent allowance (next :: rest)

mutual

/-- The layout of a value that starts at a column and leaves an allowance at its end. -/
def layoutAt (isTop : Bool) : Datum → Nat → Nat → String
  | .scalar s, indent, allowance =>
    let line := s.repr
    if (line.length : Int) ≤ columns - indent - allowance then line
    else
      match s with
      | .text t => layoutText indent allowance isTop t
      | .bytes b => layoutBytes indent allowance isTop b
      | _ => line
  | .list items, indent, allowance =>
    let line := compact (.list items)
    if (line.length : Int) ≤ columns - indent - allowance then line
    else "[" ++ layoutParts (indent + 1) (allowance + 1) (itemParts items) ++ "]"
  | .tuple items, indent, allowance =>
    let line := compact (.tuple items)
    if (line.length : Int) ≤ columns - indent - allowance then line
    else
      let close := if items.length = 1 then ",)" else ")"
      "(" ++ layoutParts (indent + 1) (allowance + close.length) (itemParts items) ++ close
  | .set items, indent, allowance =>
    let line := repr (.set items)
    if (line.length : Int) ≤ columns - indent - allowance then line
    else
      let parts := (sortByKey (items.zip (itemParts items))).map Prod.snd
      "\x7b" ++ layoutParts (indent + 1) (allowance + 1) parts ++ "\x7d"
  | .dict entries, indent, allowance =>
    let line := compact (.dict entries)
    if (line.length : Int) ≤ columns - indent - allowance then line
    else
      let parts := (sortByKey (entryParts entries)).map Prod.snd
      "\x7b" ++ layoutParts (indent + 1) (allowance + 1) parts ++ "\x7d"
  | .record attributes, indent, allowance =>
    let line := repr (.record attributes)
    if (line.length : Int) ≤ columns - indent - allowance then line
    else "namespace(" ++ layoutParts (indent + 10) allowance (attributeParts attributes) ++ ")"
  | .object _ text, _, _ => text

/-- The parts of a sequence. -/
def itemParts : List Datum → List Part
  | [] => []
  | item :: rest => ⟨"", layoutAt false item⟩ :: itemParts rest

/-- The parts of a mapping, with their keys. -/
def entryParts : List (Datum × Datum) → List (Datum × Part)
  | [] => []
  | (key, value) :: rest => (key, ⟨compact key ++ ": ", layoutAt false value⟩) :: entryParts rest

/-- The parts of a record. -/
def attributeParts : List (String × Datum) → List Part
  | [] => []
  | (name, value) :: rest => ⟨name ++ "=", layoutAt false value⟩ :: attributeParts rest

end

/-- A value laid out on lines of at most eighty columns where that is possible. -/
def layout (value : Datum) : String := layoutAt true value 0 0

/-- The layout of a result: a record shows as the mapping of its attributes. -/
def layoutResult : Datum → String
  | .record attributes => layout (.dict (attributes.map fun a => (.text a.1, a.2)))
  | value => layout value

end Datum

end ModuleSystem
