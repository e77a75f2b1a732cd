import ModuleSystem.Decimal.Binary64
import ModuleSystem.Text.Blank
import ModuleSystem.Text.Digit

/-!
# Numbers written as text

Reads whole numbers and floating-point numbers the lenient way: blanks around them, a sign, digits of
any script, and single underscores between digits.
-/

namespace ModuleSystem.Decimal

open ModuleSystem.Text

/-- The most digits that a whole number may have when it is read from text or written as text. -/
def digitLimit : Nat := 4300

/-- Digits of any script become ASCII digits and every blank becomes a space. -/
def plainChars (chars : List Char) : List Char :=
  chars.map fun c =>
    if c.toNat < 128 then c
    else
      match digitValue? c with
      | some d => Nat.digitChar d
      | none => if isBlank c then ' ' else c

/-- The value of a run of ASCII digits, most significant first. -/
def digitsValue (digits : List Char) : Nat :=
  digits.foldl (fun n c => 10 * n + (c.toNat - '0'.toNat)) 0

/-- Whether the text starts with an ASCII digit. -/
def startsDigit : List Char → Bool
  | [] => false
  | c :: _ => c.isDigit

/-- Cuts off digits after a first one; an underscore is passed over if a digit follows it. -/
def spanMoreDigits : List Char → List Char × List Char
  | [] => ([], [])
  | c :: rest =>
    if c.isDigit then
      let (digits, tail) := spanMoreDigits rest
      (c :: digits, tail)
    else if c = '_' ∧ startsDigit rest then spanMoreDigits rest
    else ([], c :: rest)

/-- Cuts off the leading digits, in which single underscores may stand between two digits. The result
holds the digits alone. -/
def spanDigits (chars : List Char) : List Char × List Char :=
  if startsDigit chars then spanMoreDigits chars else ([], chars)

/-- Cuts off a sign; the flag tells a minus. -/
def spanSign : List Char → Bool × List Char
  | '-' :: rest => (true, rest)
  | '+' :: rest => (false, rest)
  | chars => (false, chars)

/-- Why a text is no whole number. -/
inductive IntegerError where
  | malformed
  | tooLong (digits : Nat)

/-- Reads a whole number in base ten. -/
def readInteger (text : String) : Except IntegerError Int :=
  let (negative, chars) := spanSign (trim isBlank (plainChars text.toList))
  match spanDigits chars with
  | ([], _) => .error .malformed
  | (digits, []) =>
    if digits.length > digitLimit then .error (.tooLong digits.length)
    else
      let size : Int := digitsValue digits
      .ok (if negative then -size else size)
  | (_, _ :: _) => .error .malformed

/-- Reads an exponent part; a text without one has the exponent zero. -/
def readExponent? : List Char → Option Int
  | [] => some 0
  | c :: rest =>
    if c = 'e' ∨ c = 'E' then
      let (negative, chars) := spanSign rest
      match spanDigits chars with
      | ([], _) => none
      | (digits, []) =>
        let size : Int := digitsValue digits
        some (if negative then -size else size)
      | (_, _ :: _) => none
    else none

/-- The number of a whole part, a fraction and an exponent. -/
def floatOfParts (negative : Bool) (whole fraction : List Char) (exponent : Int) : Float :=
  floatOfDecimal negative (digitsValue (whole ++ fraction)) (exponent - fraction.length)

/-- Reads an unsigned decimal number with optional fraction and exponent. -/
def readUnsigned? (negative : Bool) (chars : List Char) : Option Float :=
  let (whole, rest) := spanDigits chars
  match rest with
  | '.' :: tail =>
    let (fraction, rest) := match tail with
      | c :: _ => if c.isDigit then spanDigits tail else ([], tail)
      | [] => ([], [])
    if whole.isEmpty && fraction.isEmpty then none
    else (readExponent? rest).map (floatOfParts negative whole fraction)
  | _ => if whole.isEmpty then none else (readExponent? rest).map (floatOfParts negative whole [])

/-- Reads a floating-point number, also the names of infinity and of no number. -/
def readFloat? (text : String) : Option Float :=
  let (negative, chars) := spanSign (trim isBlank (plainChars text.toList))
  let word := String.ofList (chars.map Char.toLower)
  if word = "inf" ∨ word = "infinity" then
    some (Float.ofBits (if negative then 0xFFF0000000000000 else 0x7FF0000000000000))
  else if word = "nan" then some (Float.ofBits 0x7FF8000000000000)
  else readUnsigned? negative chars

end ModuleSystem.Decimal
