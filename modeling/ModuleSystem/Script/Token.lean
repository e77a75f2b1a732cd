import ModuleSystem.Decimal.Literal
import ModuleSystem.Datum.Basic
import ModuleSystem.Text.Name

/-!
# The lines and tokens of a script

A script is a sequence of lines with one or more statements each. A line has an indentation and
tokens; blank lines and comments have none and are left out.
-/

namespace ModuleSystem.Script

open Text (isNameStart isNameChar)

/-- A word, a number or a text, or a mark of punctuation. -/
inductive Token where
  | name (name : String)
  | keyword (name : String)
  | literal (s : Scalar)
  | mark (c : Char)
  deriving Inhabited, Repr

/-- A line of a script by its number, with its indentation and its tokens. -/
structure Line where
  number : Nat
  indent : Nat
  tokens : List Token
  deriving Inhabited, Repr

/-- Words that are no names. -/
def keywords : List String :=
  ["False", "None", "True", "and", "as", "assert", "async", "await", "break", "class", "continue",
    "def", "del", "elif", "else", "except", "finally", "for", "from", "global", "if", "import", "in",
    "is", "lambda", "nonlocal", "not", "or", "pass", "raise", "return", "try", "while", "with",
    "yield"]

/-- The token of a word. -/
def wordToken (word : String) : Token :=
  if word = "None" then .literal .null
  else if word = "True" then .literal (.bool true)
  else if word = "False" then .literal (.bool false)
  else if keywords.contains word then .keyword word
  else .name word

/-- The marks of punctuation. -/
def marks : List Char :=
  ['(', ')', '[', ']', '\x7b', '\x7d', ',', ':', '.', ';', '=', '+', '-', '/']

/-- Blanks between tokens. -/
def isGap (c : Char) : Bool := c = ' ' || c = '\t' || c = '\x0c'

/-- The characters that stand behind a backslash for another character. -/
def plainEscapes : List (Char × Char) :=
  [('\\', '\\'), ('\'', '\''), ('"', '"'), ('a', '\x07'), ('b', '\x08'), ('f', '\x0c'),
    ('n', '\n'), ('r', '\r'), ('t', '\t'), ('v', '\x0b')]

/-- Whether a character is an octal digit. -/
def isOctal (c : Char) : Bool := '0' ≤ c && c ≤ '7'

/-- The value of octal digits. -/
def octalValue (digits : List Char) : Nat :=
  digits.foldl (fun n c => 8 * n + (c.toNat - '0'.toNat)) 0

/-- The value of hexadecimal digits, if all of them are. -/
def hexNumber? (digits : List Char) : Option Nat :=
  digits.foldl (fun n c => do return 16 * (← n) + (← Text.hexValue? c)) (some 0)

/-- Reads an escape by its number of hexadecimal digits. -/
def readHexEscape? (width : Nat) (chars : List Char) : Option (List Char × List Char) :=
  let digits := chars.take width
  if digits.length < width then none
  else
    match hexNumber? digits with
    | some n => if h : n.isValidChar then some ([Char.ofNatAux n h], chars.drop width) else none
    | none => none

/-- Reads what stands behind a backslash. A character without a meaning keeps its backslash. -/
def readEscape? : List Char → Option (List Char × List Char)
  | [] => none
  | c :: rest =>
    match plainEscapes.lookup c with
    | some plain => some ([plain], rest)
    | none =>
      if isOctal c then
        let digits := c :: (rest.take 2).takeWhile isOctal
        some ([Char.ofNat (octalValue digits)], rest.drop (digits.length - 1))
      else if c = 'x' then readHexEscape? 2 rest
      else if c = 'u' then readHexEscape? 4 rest
      else if c = 'U' then readHexEscape? 8 rest
      else if c = 'N' then none
      else some (['\\', c], rest)

/-- Reads a text up to its closing quote. The first argument bounds the number of steps. -/
def readText? (quote : Char) : Nat → List Char → Option (List Char × List Char)
  | 0, _ => none
  | _ + 1, [] => none
  | steps + 1, c :: rest =>
    if c = quote then some ([], rest)
    else if c = '\\' then do
      let (chars, rest) ← readEscape? rest
      let (more, rest) ← readText? quote steps rest
      return (chars ++ more, rest)
    else do
      let (more, rest) ← readText? quote steps rest
      return (c :: more, rest)

/-- A whole number of decimal digits. A leading zero is no digit of another number than zero. -/
def decimalToken? (digits : List Char) : Option Token :=
  let value := Decimal.digitsValue digits
  if digits.length > Decimal.digitLimit then none
  else if digits.head? = some '0' && value ≠ 0 then none
  else some (.literal (.int value))

/-- Reads an optional exponent, and the characters behind it. -/
def readExponent? (chars : List Char) : Option (Option Int × List Char) :=
  match chars with
  | c :: rest =>
    if c = 'e' ∨ c = 'E' then
      let (negative, digitsOn) := Decimal.spanSign rest
      match Decimal.spanDigits digitsOn with
      | ([], _) => none
      | (digits, rest) =>
        let size : Int := Decimal.digitsValue digits
        some (some (if negative then -size else size), rest)
    else some (none, chars)
  | [] => some (none, [])

/-- Reads a number in decimal digits. -/
def readDecimal? (chars : List Char) : Option (Token × List Char) := do
  let (whole, rest) := Decimal.spanDigits chars
  match rest with
  | '.' :: tail =>
    let (fraction, rest) := Decimal.spanDigits tail
    let (exponent, rest) ← readExponent? rest
    return (.literal (.float (Decimal.floatOfParts false whole fraction (exponent.getD 0))), rest)
  | _ =>
    let (exponent, rest) ← readExponent? rest
    match exponent with
    | some exponent =>
      return (.literal (.float (Decimal.floatOfParts false whole [] exponent)), rest)
    | none =>
      let token ← decimalToken? whole
      return (token, rest)

/-- Reads a number. No letter may follow it at once. -/
def readNumber? (chars : List Char) : Option (Token × List Char) := do
  let (token, rest) ← readDecimal? chars
  match rest with
  | c :: _ => if isNameChar c then none else return (token, rest)
  | [] => return (token, rest)

/-- Whether a number starts here. -/
def startsNumber : List Char → Bool
  | '.' :: c :: _ => c.isDigit
  | c :: _ => c.isDigit
  | [] => false

/-- The tokens of a line, or the number of characters left where there is none. The first argument
bounds the number of steps. -/
def readTokens : Nat → List Char → Except Nat (List Token)
  | 0, chars => .error chars.length
  | _ + 1, [] => .ok []
  | steps + 1, c :: rest =>
    if isGap c then readTokens steps rest
    else if c = '#' then .ok []
    else if c = '\'' ∨ c = '"' then
      match readText? c (rest.length + 1) rest with
      | some (text, rest) => do
        let tokens ← readTokens steps rest
        return .literal (.text (String.ofList text)) :: tokens
      | none => .error (rest.length + 1)
    else if startsNumber (c :: rest) then
      match readNumber? (c :: rest) with
      | some (token, rest) => do
        let tokens ← readTokens steps rest
        return token :: tokens
      | none => .error (rest.length + 1)
    else if isNameStart c then do
      let word := c :: rest.takeWhile isNameChar
      let tokens ← readTokens steps (rest.dropWhile isNameChar)
      return wordToken (String.ofList word) :: tokens
    else if marks.contains c then do
      let tokens ← readTokens steps rest
      return .mark c :: tokens
    else .error (rest.length + 1)

/-- The column behind some blanks at the start of a line: a tab goes to the next multiple of eight, and
a form feed back to the start. -/
def columnBehind (column : Nat) : List Char → Nat
  | ' ' :: rest => columnBehind (column + 1) rest
  | '\t' :: rest => columnBehind (column / 8 * 8 + 8) rest
  | '\x0c' :: rest => columnBehind 0 rest
  | _ => column

/-- Where a script cannot be read: a line and a column, counted from one. -/
structure Place where
  line : Nat
  column : Nat
  deriving DecidableEq, Repr

/-- Reads the lines of a script, counting them from a number. -/
def readLines (number : Nat) : List (List Char) → Except Place (List Line)
  | [] => .ok []
  | chars :: rest => do
    let tokens ← (readTokens (chars.length + 1) chars).mapError fun left =>
      ⟨number, chars.length - left + 1⟩
    let lines ← readLines (number + 1) rest
    return if tokens.isEmpty then lines else ⟨number, columnBehind 0 chars, tokens⟩ :: lines

/-- The lines of a script that hold something. -/
def linesOf (source : String) : Except Place (List Line) :=
  readLines 1 (Text.splitAt '\n' (Text.unifyNewlines source.toList))

end ModuleSystem.Script
