/-!
# Binary floating-point numbers as exact values

A finite number of the 64-bit format is a sign and a product `mantissa * 2 ^ exponent`. This module
takes a `Float` apart into that form and rounds a quotient of natural numbers to the nearest number
of the format, a tie going to the even mantissa.
-/

namespace ModuleSystem.Decimal

/-- A power of two. -/
def powerOfTwo (exponent : Nat) : Nat := Nat.pow 2 exponent

/-- A power of ten. -/
def powerOfTen (exponent : Nat) : Nat := Nat.pow 10 exponent

/-- What a 64-bit floating-point number stands for. -/
inductive Binary64 where
  | notANumber
  | infinite (negative : Bool)
  | finite (negative : Bool) (mantissa : Nat) (exponent : Int)
  deriving DecidableEq, Repr

namespace Binary64

/-- The least exponent of the format, which the numbers next to zero have. -/
def leastExponent : Int := -1074

/-- Reads the sign, exponent and mantissa fields. -/
def ofBits (bits : Nat) : Binary64 :=
  let negative : Bool := bits / powerOfTwo 63 % 2 == 1
  let field : Nat := bits / powerOfTwo 52 % powerOfTwo 11
  let low : Nat := bits % powerOfTwo 52
  if field = 2047 then if low = 0 then infinite negative else notANumber
  else if field = 0 then finite negative low leastExponent
  else finite negative (low + powerOfTwo 52) ((field : Int) - 1075)

/-- What a `Float` stands for. -/
def ofFloat (x : Float) : Binary64 := ofBits x.toBits.toNat

/-- The quotient rounded to the nearest natural number, a tie going to the even one. -/
def roundQuotient (num den : Nat) : Nat :=
  let low := num / den
  let rest := 2 * (num % den)
  if rest < den ∨ (rest = den ∧ low % 2 = 0) then low else low + 1

/-- The quotient of `num / den` and a power of two, rounded. -/
def roundScaled (num den : Nat) (exponent : Int) : Nat :=
  if 0 ≤ exponent then roundQuotient num (den * powerOfTwo exponent.toNat)
  else roundQuotient (num * powerOfTwo (-exponent).toNat) den

/-- The whole part of the quotient of `num / den` and a power of two. -/
def floorScaled (num den : Nat) (exponent : Int) : Nat :=
  if 0 ≤ exponent then num / (den * powerOfTwo exponent.toNat)
  else num * powerOfTwo (-exponent).toNat / den

/-- The exponent that gives `num / den` a mantissa of 53 bits, or the least exponent. -/
def exponentOf (num den : Nat) : Int :=
  let guess := (num.log2 : Int) - den.log2 - 53
  let fit := if floorScaled num den guess < powerOfTwo 53 then guess else guess + 1
  max fit leastExponent

/-- The bits of the number of the format nearest to `num / den`, without the sign. A quotient past
the largest number gives infinity. -/
def bitsOfRatio (num den : Nat) : Nat :=
  if num = 0 then 0
  else
    let exponent := exponentOf num den
    let mantissa := roundScaled num den exponent
    let (mantissa, exponent) :=
      if mantissa = powerOfTwo 53 then (powerOfTwo 52, exponent + 1) else (mantissa, exponent)
    if exponent > 971 then 2047 * powerOfTwo 52
    else if mantissa < powerOfTwo 52 then mantissa
    else (exponent + 1075).toNat * powerOfTwo 52 + (mantissa - powerOfTwo 52)

/-- The `Float` nearest to `num / den`, with a sign. -/
def floatOfRatio (negative : Bool) (num den : Nat) : Float :=
  Float.ofBits (UInt64.ofNat (bitsOfRatio num den + if negative then powerOfTwo 63 else 0))

/-- The whole part toward zero, if there is one. -/
def truncate? : Binary64 → Option Int
  | finite negative mantissa exponent =>
    let size : Int := if 0 ≤ exponent then mantissa * powerOfTwo exponent.toNat
      else mantissa / powerOfTwo (-exponent).toNat
    some (if negative then -size else size)
  | _ => none

/-- The whole number that a floating-point number is equal to, if there is one. -/
def toInt? : Binary64 → Option Int
  | finite negative mantissa exponent =>
    if 0 ≤ exponent ∨ mantissa % powerOfTwo (-exponent).toNat = 0 then
      truncate? (finite negative mantissa exponent)
    else none
  | _ => none

end Binary64

/-- The `Float` nearest to a whole number, if it is not past the largest one. -/
def floatOfInt? (n : Int) : Option Float :=
  let x := Binary64.floatOfRatio (n < 0) n.natAbs 1
  if x.isInf then none else some x

/-- The `Float` nearest to `digits * 10 ^ exponent`. Exponents far outside the format are cut off
before any power is computed. -/
def floatOfDecimal (negative : Bool) (digits : Nat) (exponent : Int) : Float :=
  if digits = 0 then Binary64.floatOfRatio negative 0 1
  else if exponent > 400 then Binary64.floatOfRatio negative (powerOfTen 400) 1
  else if exponent + (digits.log2 : Int) < -1200 then Binary64.floatOfRatio negative 0 1
  else if 0 ≤ exponent then Binary64.floatOfRatio negative (digits * powerOfTen exponent.toNat) 1
  else Binary64.floatOfRatio negative digits (powerOfTen (-exponent).toNat)

end ModuleSystem.Decimal
