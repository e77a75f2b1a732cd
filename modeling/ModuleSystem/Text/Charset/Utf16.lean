import ModuleSystem.Text.Charset.Utf8

/-!
# UTF-16

Bytes are paired to units in one of two orders. A high surrogate with a low one behind it is one
character; any other surrogate, and a byte without a partner, is malformed.
-/

namespace ModuleSystem.Text

/-- The order of the two bytes of a unit. -/
inductive ByteOrder where
  | littleEndian
  | bigEndian
  deriving DecidableEq, Repr

/-- The unit of two bytes. -/
def ByteOrder.unit (order : ByteOrder) (a b : UInt8) : Nat :=
  match order with
  | .littleEndian => a.toNat + 256 * b.toNat
  | .bigEndian => 256 * a.toNat + b.toNat

/-- The two bytes of a unit. -/
def ByteOrder.bytes (order : ByteOrder) (unit : Nat) : List UInt8 :=
  match order with
  | .littleEndian => [UInt8.ofNat (unit % 256), UInt8.ofNat (unit / 256)]
  | .bigEndian => [UInt8.ofNat (unit / 256), UInt8.ofNat (unit % 256)]

/-- Whether a unit is the first half of a pair. -/
def isHighSurrogate (unit : Nat) : Bool := 0xD800 ≤ unit && unit < 0xDC00

/-- Whether a unit is the second half of a pair. -/
def isLowSurrogate (unit : Nat) : Bool := 0xDC00 ≤ unit && unit < 0xE000

/-- The character of a pair of surrogates. -/
def joinSurrogates (high low : Nat) : Char :=
  Char.ofNat (0x10000 + 1024 * (high - 0xD800) + (low - 0xDC00))

/-- Decodes, with a replacement character for every malformed unit. A high surrogate that waits for
its partner is held back. -/
def decodeUtf16From (order : ByteOrder) (held : Option Nat) : List UInt8 → List Char
  | [] => if held.isSome then [replacement] else []
  | [_] => [replacement]
  | a :: b :: rest =>
    let unit := order.unit a b
    match held with
    | some high =>
      if isLowSurrogate unit then joinSurrogates high unit :: decodeUtf16From order none rest
      else if isHighSurrogate unit then replacement :: decodeUtf16From order (some unit) rest
      else replacement :: Char.ofNat unit :: decodeUtf16From order none rest
    | none =>
      if isHighSurrogate unit then decodeUtf16From order (some unit) rest
      else if isLowSurrogate unit then replacement :: decodeUtf16From order none rest
      else Char.ofNat unit :: decodeUtf16From order none rest

/-- Decodes in a given byte order; a byte-order mark is a character like any other. -/
def decodeUtf16As (order : ByteOrder) (bytes : List UInt8) : List Char :=
  decodeUtf16From order none bytes

/-- Decodes in the order that the byte-order mark tells, which is little-endian without one. -/
def decodeUtf16 : List UInt8 → List Char
  | 0xFF :: 0xFE :: rest => decodeUtf16As .littleEndian rest
  | 0xFE :: 0xFF :: rest => decodeUtf16As .bigEndian rest
  | bytes => decodeUtf16As .littleEndian bytes

/-- The bytes of a character in a byte order. -/
def encodeUtf16Char (order : ByteOrder) (c : Char) : List UInt8 :=
  let n := c.toNat
  if n < 0x10000 then order.bytes n
  else order.bytes (0xD800 + (n - 0x10000) / 1024) ++ order.bytes (0xDC00 + (n - 0x10000) % 1024)

/-- The bytes of a text in a byte order. -/
def encodeUtf16As (order : ByteOrder) (chars : List Char) : List UInt8 :=
  chars.flatMap (encodeUtf16Char order)

end ModuleSystem.Text
