import ModuleSystem.Datum.Basic
import ModuleSystem.Decimal.Literal
import ModuleSystem.Text.Charset.Utf16

/-!
# JSON documents

A reader of JSON that says what it expected and where. The readers work on the rest of the text; an
error carries the rest at which it arose, and its position follows from the length of that rest. Not
a number and the infinities are accepted as values, and of a repeated name the last value counts.
-/

namespace ModuleSystem.Json

open Decimal (digitsValue)

/-- What a reader missed or did not accept. -/
inductive Problem where
  | unexpectedMark
  | expectingValue
  | expectingName
  | expectingColon
  | expectingComma
  | unterminatedString
  | invalidControl
  | invalidEscape
  | invalidUnicodeEscape
  | extraData
  | integerTooLong (digits : Nat)
  deriving DecidableEq, Repr

/-- A problem and the rest of the text at which it arose. -/
structure Stop where
  problem : Problem
  rest : List Char

/-- The blanks between tokens. -/
def isSpace (c : Char) : Bool := c = ' ' || c = '\t' || c = '\n' || c = '\r'

/-- The text without leading blanks. -/
def skipSpace (chars : List Char) : List Char := chars.dropWhile isSpace

/-- The value of four hexadecimal digits. -/
def hexUnit? (a b c d : Char) : Option Nat := do
  let a ← Text.hexValue? a
  let b ← Text.hexValue? b
  let c ← Text.hexValue? c
  let d ← Text.hexValue? d
  return 4096 * a + 256 * b + 16 * c + d

/-- The character of an escape of one letter. -/
def simpleEscape? : Char → Option Char
  | '"' => some '"'
  | '\\' => some '\\'
  | '/' => some '/'
  | 'b' => some '\x08'
  | 'f' => some '\x0c'
  | 'n' => some '\n'
  | 'r' => some '\r'
  | 't' => some '\t'
  | _ => none

/-- The character of a unit; half of a pair stands for no character. -/
def unitChar (unit : Nat) : Char :=
  if Text.isHighSurrogate unit || Text.isLowSurrogate unit then Text.replacement
  else Char.ofNat unit

/-- Reads the inside of a string up to its closing quote. `opening` is the text from the opening quote
on, and `read` holds the characters so far, the last one first. -/
def readString (opening : List Char) : Nat → List Char → List Char → Except Stop (List Char × List Char)
  | 0, _, _ => .error ⟨.unterminatedString, opening⟩
  | _ + 1, _, [] => .error ⟨.unterminatedString, opening⟩
  | fuel + 1, read, c :: rest =>
    if c = '"' then .ok (read.reverse, rest)
    else if c = '\\' then
      match rest with
      | [] => .error ⟨.unterminatedString, opening⟩
      | 'u' :: digits =>
        match digits with
        | d₁ :: d₂ :: d₃ :: d₄ :: next :: more =>
          match hexUnit? d₁ d₂ d₃ d₄ with
          | none => .error ⟨.invalidUnicodeEscape, rest⟩
          | some unit =>
            match Text.isHighSurrogate unit, next :: more with
            | true, '\\' :: 'u' :: e₁ :: e₂ :: e₃ :: e₄ :: last :: tail =>
              match hexUnit? e₁ e₂ e₃ e₄ with
              | none => .error ⟨.invalidUnicodeEscape, more⟩
              | some second =>
                if Text.isLowSurrogate second then
                  readString opening fuel (Text.joinSurrogates unit second :: read) (last :: tail)
                else readString opening fuel (unitChar unit :: read) (next :: more)
            | _, _ => readString opening fuel (unitChar unit :: read) (next :: more)
        | _ => .error ⟨.invalidUnicodeEscape, rest⟩
      | letter :: more =>
        match simpleEscape? letter with
        | some e => readString opening fuel (e :: read) more
        | none => .error ⟨.invalidEscape, c :: rest⟩
    else if c.toNat ≤ 0x1F then .error ⟨.invalidControl, c :: rest⟩
    else readString opening fuel (c :: read) rest

/-- The sign, whole part, fraction and exponent of a number, and the text behind it. -/
structure NumberParts where
  negative : Bool
  whole : List Char
  fraction : List Char
  exponent : Option Int
  rest : List Char

/-- Cuts off an exponent that has digits. -/
def readExponent (chars : List Char) : Option Int × List Char :=
  match chars with
  | c :: rest =>
    if c = 'e' ∨ c = 'E' then
      let (negative, digits) := Decimal.spanSign rest
      let size := digits.takeWhile Char.isDigit
      if size.isEmpty then (none, chars)
      else
        let n : Int := digitsValue size
        (some (if negative then -n else n), digits.dropWhile Char.isDigit)
    else (none, chars)
  | [] => (none, [])

/-- Cuts off a number: no leading zeros, and a point only before digits. -/
def readNumber? (chars : List Char) : Option NumberParts :=
  let (negative, digits) := match chars with
    | '-' :: rest => (true, rest)
    | _ => (false, chars)
  let whole := match digits with
    | '0' :: _ => ['0']
    | _ => digits.takeWhile Char.isDigit
  if whole.isEmpty then none
  else
    let behind := digits.drop whole.length
    let fraction := match behind with
      | '.' :: more => more.takeWhile Char.isDigit
      | _ => []
    let behind := if fraction.isEmpty then behind else behind.drop (fraction.length + 1)
    let (exponent, rest) := readExponent behind
    some ⟨negative, whole, fraction, exponent, rest⟩

/-- The value of a number: whole unless it has a fraction or an exponent. -/
def NumberParts.value (start : List Char) (number : NumberParts) : Except Stop (Datum × List Char) :=
  if number.fraction.isEmpty && number.exponent.isNone then
    if number.whole.length > Decimal.digitLimit then
      .error ⟨.integerTooLong number.whole.length, start⟩
    else
      let size : Int := digitsValue number.whole
      .ok (.int (if number.negative then -size else size), number.rest)
  else
    .ok (.float (Decimal.floatOfParts number.negative number.whole number.fraction
      (number.exponent.getD 0)), number.rest)

/-- The values that are written as words. -/
def wordValues : List (List Char × Datum) :=
  [("null".toList, .null), ("true".toList, .bool true), ("false".toList, .bool false),
    ("NaN".toList, .float (Float.ofBits 0x7FF8000000000000)),
    ("Infinity".toList, .float (Float.ofBits 0x7FF0000000000000)),
    ("-Infinity".toList, .float (Float.ofBits 0xFFF0000000000000))]

/-- Reads a value that is a word or a number. -/
def readPlain (chars : List Char) : Except Stop (Datum × List Char) :=
  let word? := wordValues.findSome? fun (word, value) =>
    (Text.after? word chars).map fun rest => (value, rest)
  match word? with
  | some reading => .ok reading
  | none =>
    match readNumber? chars with
    | some number => number.value chars
    | none => .error ⟨.expectingValue, chars⟩

mutual

/-- Reads a value. The first argument bounds the number of steps; each level takes two. -/
def readValue : Nat → List Char → Except Stop (Datum × List Char)
  | 0, chars => .error ⟨.expectingValue, chars⟩
  | fuel + 1, chars =>
    match chars with
    | '"' :: rest => do
      let (text, rest) ← readString chars (rest.length + 1) [] rest
      return (.text (String.ofList text), rest)
    | '\x7b' :: rest => do
      let rest := skipSpace rest
      match rest with
      | '\x7d' :: rest => return (.dict [], rest)
      | _ => readEntries fuel [] rest
    | '[' :: rest => do
      let rest := skipSpace rest
      match rest with
      | ']' :: rest => return (.list [], rest)
      | _ => readItems fuel [] rest
    | _ => readPlain chars

/-- Reads the entries of an object up to its closing bracket. -/
def readEntries : Nat → List (Datum × Datum) → List Char → Except Stop (Datum × List Char)
  | 0, _, chars => .error ⟨.expectingName, chars⟩
  | fuel + 1, entries, chars =>
    match chars with
    | '"' :: rest => do
      let (name, rest) ← readString chars (rest.length + 1) [] rest
      match skipSpace rest with
      | ':' :: rest => do
        let (value, rest) ← readValue fuel (skipSpace rest)
        let entries := Datum.insert (.text (String.ofList name)) value entries
        match skipSpace rest with
        | '\x7d' :: rest => return (.dict entries, rest)
        | ',' :: rest => readEntries fuel entries (skipSpace rest)
        | rest => throw ⟨.expectingComma, rest⟩
      | rest => throw ⟨.expectingColon, rest⟩
    | _ => throw ⟨.expectingName, chars⟩

/-- Reads the items of an array up to its closing bracket. `items` holds those so far, the last one
first. -/
def readItems : Nat → List Datum → List Char → Except Stop (Datum × List Char)
  | 0, _, chars => .error ⟨.expectingValue, chars⟩
  | fuel + 1, items, chars => do
    let (value, rest) ← readValue fuel chars
    match skipSpace rest with
    | ']' :: rest => return (.list (value :: items).reverse, rest)
    | ',' :: rest => readItems fuel (value :: items) (skipSpace rest)
    | rest => throw ⟨.expectingComma, rest⟩

end

/-- A problem with its place: line and column count from one, the position from zero. -/
structure Failure where
  problem : Problem
  line : Nat
  column : Nat
  position : Nat
  deriving DecidableEq, Repr

/-- The failure of a reader that stopped inside a text. -/
def Stop.failure (chars : List Char) (stop : Stop) : Failure :=
  let position := chars.length - stop.rest.length
  let before := chars.take position
  { problem := stop.problem
    line := before.count '\n' + 1
    column := (before.reverse.takeWhile (· ≠ '\n')).length + 1
    position := position }

/-- Reads a whole text as one value. -/
def readDocument (chars : List Char) : Except Stop Datum :=
  match chars with
  | '\uFEFF' :: _ => .error ⟨.unexpectedMark, chars⟩
  | _ => do
    let (value, rest) ← readValue (2 * chars.length + 2) (skipSpace chars)
    match skipSpace rest with
    | [] => return value
    | rest => throw ⟨.extraData, rest⟩

/-- Reads a text as one value. -/
def read (text : String) : Except Failure Datum :=
  (readDocument text.toList).mapError (Stop.failure text.toList)

/-- A problem in words, without its place. -/
def Problem.message : Problem → String
  | .unexpectedMark => "Unexpected UTF-8 BOM (decode using utf-8-sig)"
  | .expectingValue => "Expecting value"
  | .expectingName => "Expecting property name enclosed in double quotes"
  | .expectingColon => "Expecting ':' delimiter"
  | .expectingComma => "Expecting ',' delimiter"
  | .unterminatedString => "Unterminated string starting at"
  | .invalidControl => "Invalid control character at"
  | .invalidEscape => "Invalid \\escape"
  | .invalidUnicodeEscape => "Invalid \\uXXXX escape"
  | .extraData => "Extra data"
  | .integerTooLong digits => "Exceeds the limit (" ++ toString Decimal.digitLimit ++
      " digits) for integer string conversion: value has " ++ toString digits ++
      " digits; use sys.set_int_max_str_digits() to increase the limit"

/-- A failure in words. A number that is too long is no matter of place. -/
def Failure.message (failure : Failure) : String :=
  match failure.problem with
  | .integerTooLong _ => failure.problem.message
  | problem => problem.message ++ ": line " ++ toString failure.line ++ " column " ++
      toString failure.column ++ " (char " ++ toString failure.position ++ ")"

end ModuleSystem.Json
