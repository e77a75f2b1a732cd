import ModuleSystem.Text.Blank

/-!
# UTF-8

A machine reads a byte string one byte at a time. Between characters it takes a leading byte; inside a
character it remembers what it has seen, how many bytes are owed, and the range of the next one. A
byte that does not fit ends the character as malformed and is read again as a leading byte, so every
malformed stretch is as long as it can be.
-/

namespace ModuleSystem.Text

/-- Why a stretch of bytes is no character. -/
inductive Utf8Error where
  | invalidStart
  | invalidContinuation
  | unexpectedEnd
  deriving DecidableEq, Repr

/-- A character, or a malformed stretch of some length. -/
inductive Utf8Piece where
  | char (c : Char)
  | bad (length : Nat) (first : UInt8) (reason : Utf8Error)
  deriving DecidableEq, Repr

/-- Where the machine stands: between characters, or inside one. -/
inductive Utf8State where
  | start
  | inside (first : UInt8) (seen value owed low high : Nat)
  deriving DecidableEq, Repr

/-- Reads a leading byte: the piece that it completes, if any, and the state after it. -/
def Utf8State.lead (b : UInt8) : Option Utf8Piece × Utf8State :=
  let n := b.toNat
  if n < 0x80 then (some (.char (Char.ofNat n)), .start)
  else if n < 0xC2 then (some (.bad 1 b .invalidStart), .start)
  else if n < 0xE0 then (none, .inside b 1 (n - 0xC0) 1 0x80 0xBF)
  else if n < 0xF0 then
    (none, .inside b 1 (n - 0xE0) 2 (if n = 0xE0 then 0xA0 else 0x80)
      (if n = 0xED then 0x9F else 0xBF))
  else if n < 0xF5 then
    (none, .inside b 1 (n - 0xF0) 3 (if n = 0xF0 then 0x90 else 0x80)
      (if n = 0xF4 then 0x8F else 0xBF))
  else (some (.bad 1 b .invalidStart), .start)

/-- The pieces of a byte string that is read from a state on. -/
def utf8PiecesFrom : Utf8State → List UInt8 → List Utf8Piece
  | .start, [] => []
  | .inside first seen _ _ _ _, [] => [.bad seen first .unexpectedEnd]
  | .start, b :: rest =>
    let (piece, state) := Utf8State.lead b
    piece.toList ++ utf8PiecesFrom state rest
  | .inside first seen value owed low high, b :: rest =>
    if low ≤ b.toNat ∧ b.toNat ≤ high then
      let value := 64 * value + (b.toNat - 0x80)
      if owed ≤ 1 then .char (Char.ofNat value) :: utf8PiecesFrom .start rest
      else utf8PiecesFrom (.inside first (seen + 1) value (owed - 1) 0x80 0xBF) rest
    else
      let (piece, state) := Utf8State.lead b
      .bad seen first .invalidContinuation :: (piece.toList ++ utf8PiecesFrom state rest)

/-- The pieces of a byte string. -/
def utf8Pieces (bytes : List UInt8) : List Utf8Piece := utf8PiecesFrom .start bytes

/-- The character that stands for a malformed stretch. -/
def replacement : Char := '\uFFFD'

/-- Decodes, with one replacement character for every malformed stretch. -/
def decodeUtf8 (bytes : List UInt8) : List Char :=
  (utf8Pieces bytes).map fun
    | .char c => c
    | .bad _ _ _ => replacement

/-- The first malformed stretch of a byte string. -/
structure Utf8Failure where
  position : Nat
  length : Nat
  first : UInt8
  reason : Utf8Error
  deriving DecidableEq, Repr

/-- The text of the pieces from a position on, or their first malformed stretch. -/
def joinPieces (position : Nat) : List Utf8Piece → Except Utf8Failure (List Char)
  | [] => .ok []
  | .char c :: rest => (joinPieces (position + c.utf8Size) rest).map (c :: ·)
  | .bad length first reason :: _ => .error ⟨position, length, first, reason⟩

/-- Decodes a byte string that must be well-formed. -/
def readUtf8 (bytes : List UInt8) : Except Utf8Failure (List Char) :=
  joinPieces 0 (utf8Pieces bytes)

/-- The byte-order mark in UTF-8. -/
def utf8Mark : List UInt8 := [0xEF, 0xBB, 0xBF]

/-- A byte string without the byte-order mark at its start. -/
def dropUtf8Mark : List UInt8 → List UInt8
  | 0xEF :: 0xBB :: 0xBF :: rest => rest
  | bytes => bytes

/-- The bytes of a character. -/
def encodeUtf8Char (c : Char) : List UInt8 :=
  let n := c.toNat
  let low (k : Nat) : UInt8 := UInt8.ofNat (0x80 + n / Nat.pow 64 k % 64)
  if n < 0x80 then [UInt8.ofNat n]
  else if n < 0x800 then [UInt8.ofNat (0xC0 + n / 64), low 0]
  else if n < 0x10000 then [UInt8.ofNat (0xE0 + n / 4096), low 1, low 0]
  else [UInt8.ofNat (0xF0 + n / 262144), low 2, low 1, low 0]

/-- The bytes of a text. -/
def encodeUtf8 (chars : List Char) : List UInt8 := chars.flatMap encodeUtf8Char

/-- What is wrong with a stretch of bytes, in words. -/
def Utf8Error.message : Utf8Error → String
  | .invalidStart => "invalid start byte"
  | .invalidContinuation => "invalid continuation byte"
  | .unexpectedEnd => "unexpected end of data"

/-- What is wrong with a byte string, in words. -/
def Utf8Failure.message (failure : Utf8Failure) : String :=
  let start := "'utf-8' codec can't decode "
  if failure.length = 1 then
    start ++ "byte 0x" ++ String.ofList (hexDigits 2 failure.first.toNat) ++ " in position " ++
      toString failure.position ++ ": " ++ failure.reason.message
  else
    start ++ "bytes in position " ++ toString failure.position ++ "-" ++
      toString (failure.position + failure.length - 1) ++ ": " ++ failure.reason.message

end ModuleSystem.Text
