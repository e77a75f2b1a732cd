/-!
# Blanks, trimming and splitting

The white space of Unicode together with the four separators of ASCII, and the text operations that
cut at it or at a given character. Everything works on lists of characters.
-/

namespace ModuleSystem.Text

/-- The blanks that trimming removes: Unicode white space and the ASCII separators. -/
def isBlank (c : Char) : Bool :=
  let n := c.toNat
  (9 ≤ n && n ≤ 13) || (28 ≤ n && n ≤ 32) || n == 0x85 || n == 0xA0 || n == 0x1680 ||
    (0x2000 ≤ n && n ≤ 0x200A) || n == 0x2028 || n == 0x2029 || n == 0x202F || n == 0x205F ||
    n == 0x3000

/-- Removes leading characters that satisfy `drop`. -/
def trimLeft (drop : Char → Bool) (chars : List Char) : List Char := chars.dropWhile drop

/-- Removes trailing characters that satisfy `drop`. -/
def trimRight (drop : Char → Bool) (chars : List Char) : List Char :=
  (chars.reverse.dropWhile drop).reverse

/-- Removes characters that satisfy `drop` at both ends. -/
def trim (drop : Char → Bool) (chars : List Char) : List Char :=
  trimRight drop (trimLeft drop chars)

/-- The text without the blanks at its two ends. -/
def strip (text : String) : String := String.ofList (trim isBlank text.toList)

/-- The text without the blanks at its end. -/
def stripEnd (text : String) : String := String.ofList (trimRight isBlank text.toList)

/-- The pieces between the occurrences of a separator; a text without it is one piece. -/
def splitAt (separator : Char) : List Char → List (List Char)
  | [] => [[]]
  | c :: rest =>
    if c = separator then [] :: splitAt separator rest
    else
      match splitAt separator rest with
      | [] => [[c]]
      | piece :: pieces => (c :: piece) :: pieces

theorem splitAt_ne_nil (separator : Char) (chars : List Char) : splitAt separator chars ≠ [] := by
  cases chars with
  | nil => simp [splitAt]
  | cons c rest =>
    simp only [splitAt]
    split
    · simp
    · split <;> simp

/-- The pieces joined with a separator between neighbours. -/
def joinWith (separator : List Char) : List (List Char) → List Char
  | [] => []
  | [piece] => piece
  | piece :: next :: pieces => piece ++ separator ++ joinWith separator (next :: pieces)

/-- The remaining characters after a leading text. -/
def after? : List Char → List Char → Option (List Char)
  | [], chars => some chars
  | _ :: _, [] => none
  | expected :: more, c :: rest => if c = expected then after? more rest else none

theorem after?_eq_some_iff {start chars rest : List Char} :
    after? start chars = some rest ↔ chars = start ++ rest := by
  induction start generalizing chars with
  | nil => simp [after?, eq_comm]
  | cons expected more ih =>
    cases chars with
    | nil => simp [after?]
    | cons c tail =>
      by_cases same : c = expected
      · simp [after?, same, ih]
      · simp [after?, same]

/-- Whether a text occurs somewhere in another. -/
def occursIn (part : List Char) : List Char → Bool
  | [] => part.isEmpty
  | c :: rest => (after? part (c :: rest)).isSome || occursIn part rest

/-- Both kinds of carriage return, alone or before a line feed, become a line feed. -/
def unifyNewlines : List Char → List Char
  | [] => []
  | '\r' :: '\n' :: rest => '\n' :: unifyNewlines rest
  | '\r' :: rest => '\n' :: unifyNewlines rest
  | c :: rest => c :: unifyNewlines rest

/-- The lowest `width` hexadecimal digits of a number, in small letters. -/
def hexDigits : Nat → Nat → List Char
  | 0, _ => []
  | width + 1, n => hexDigits width (n / 16) ++ [Nat.digitChar (n % 16)]

/-- The value of a hexadecimal digit. -/
def hexValue? (c : Char) : Option Nat :=
  if c.isDigit then some (c.toNat - '0'.toNat)
  else if 'a' ≤ c ∧ c ≤ 'f' then some (c.toNat - 'a'.toNat + 10)
  else if 'A' ≤ c ∧ c ≤ 'F' then some (c.toNat - 'A'.toNat + 10)
  else none

/-- The bytes of a text of pairs of hexadecimal digits. -/
def bytesOfHex? : List Char → Option (List UInt8)
  | [] => some []
  | high :: low :: rest => do
    let high ← hexValue? high
    let low ← hexValue? low
    let bytes ← bytesOfHex? rest
    return UInt8.ofNat (16 * high + low) :: bytes
  | [_] => none

/-- The bytes as pairs of hexadecimal digits. -/
def hexOfBytes (bytes : List UInt8) : List Char := bytes.flatMap fun b => hexDigits 2 b.toNat

end ModuleSystem.Text
