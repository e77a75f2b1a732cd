import ModuleSystem.Decimal.Binary64

/-!
# The shortest decimal that reads back

Every finite number of the 64-bit format is the nearest one to all reals of an interval. Its text has
the fewest digits that any decimal of that interval has, and of those decimals it is the nearest. On a
grid of `d` digits only the two neighbours of the number matter: if some grid point lies in the
interval, one of them does.
-/

namespace ModuleSystem.Decimal

/-- The reals that round to a number, over a common denominator: the number itself, the ends of its
interval, and whether the ends belong to it. -/
structure Interval where
  value : Nat
  low : Nat
  high : Nat
  denominator : Nat
  closed : Bool

/-- The interval of `mantissa * 2 ^ exponent`. Below a power of two the gap is half as wide. -/
def intervalOf (mantissa : Nat) (exponent : Int) : Interval :=
  let gap := if mantissa = powerOfTwo 52 ∧ exponent > Binary64.leastExponent then 1 else 2
  let scale := if 2 ≤ exponent then powerOfTwo (exponent - 2).toNat else 1
  { value := 4 * mantissa * scale
    low := (4 * mantissa - gap) * scale
    high := (4 * mantissa + 2) * scale
    denominator := if 2 ≤ exponent then 1 else powerOfTwo (2 - exponent).toNat
    closed := mantissa % 2 == 0 }

/-- Whether the quotient `num / den` lies in the interval. -/
def Interval.contains (i : Interval) (num den : Nat) : Bool :=
  if i.closed then i.low * den ≤ num * i.denominator && num * i.denominator ≤ i.high * den
  else i.low * den < num * i.denominator && num * i.denominator < i.high * den

/-- The least position `p` from a start at which `10 ^ p` exceeds the number. -/
def decimalPoint (i : Interval) : Nat → Int → Int
  | 0, p => p
  | fuel + 1, p =>
    let reached := if 0 ≤ p then i.value < i.denominator * powerOfTen p.toNat
      else i.value * powerOfTen (-p).toNat < i.denominator
    if reached then p else decimalPoint i fuel (p + 1)

/-- The decimal of `count` digits nearest to the number among those of its interval: the digits as a
number, for a value below `10 ^ point`. -/
def nearestOnGrid (i : Interval) (point : Int) (count : Nat) : Option Nat :=
  let shift := (count : Int) - point
  let (num, den) := if 0 ≤ shift then (i.value * powerOfTen shift.toNat, i.denominator)
    else (i.value, i.denominator * powerOfTen (-shift).toNat)
  let low := num / den
  let inside (n : Nat) : Bool :=
    if 0 ≤ shift then i.contains n (powerOfTen shift.toNat)
    else i.contains (n * powerOfTen (-shift).toNat) 1
  let rest := 2 * (num % den)
  let lowFirst := rest < den || (rest == den && low % 2 == 0)
  let (first, second) := if lowFirst then (low, low + 1) else (low + 1, low)
  if inside first then some first else if inside second then some second else none

/-- The first grid with a hit, from `count` digits on. -/
def shortestFrom (i : Interval) (point : Int) : Nat → Nat → Nat × Nat
  | 0, count => (0, count)
  | fuel + 1, count =>
    match nearestOnGrid i point count with
    | some digits => (digits, count)
    | none => shortestFrom i point fuel (count + 1)

/-- Removes zeros at the end of the digits. -/
def dropZeros (digits : List Char) : List Char := (digits.reverse.dropWhile (· == '0')).reverse

/-- The digits of the shortest decimal and the place of its point: the value is `0.digits` times ten
to the power of the point. -/
def shortestDigits (mantissa : Nat) (exponent : Int) : List Char × Int :=
  if mantissa = 0 then (['0'], 1)
  else
    let i := intervalOf mantissa exponent
    let start := ((mantissa.log2 : Int) + exponent) * 3 / 10 - 2
    let point := decimalPoint i 8 start
    let (digits, count) := shortestFrom i point 17 1
    let text := Nat.toDigits 10 digits
    (dropZeros text, point + (text.length : Int) - count)

/-- How a floating-point number is written: in positions while its point lies in a range, and with an
exponent of a least width outside it. -/
structure FloatFormat where
  leastPoint : Int
  mostPoint : Int
  exponentWidth : Nat

/-- Positions from one ten-thousandth to below ten to the sixteenth, exponents of two digits. -/
def plainFormat : FloatFormat := ⟨-3, 16, 2⟩

/-- The digits with their point in position, at least one digit on each side of it. -/
def positional (digits : List Char) (point : Int) : List Char :=
  if point ≤ 0 then '0' :: '.' :: (List.replicate (-point).toNat '0' ++ digits)
  else
    let whole := digits.take point.toNat
    let fraction := digits.drop point.toNat
    whole ++ List.replicate (point.toNat - whole.length) '0' ++ '.' ::
      (if fraction.isEmpty then ['0'] else fraction)

/-- The digits with one before the point and an exponent. -/
def scientific (width : Nat) (digits : List Char) (point : Int) : List Char :=
  let exponent := point - 1
  let size := Nat.toDigits 10 exponent.natAbs
  let fraction := digits.drop 1
  digits.take 1 ++ (if fraction.isEmpty then [] else '.' :: fraction) ++
    'e' :: (if exponent < 0 then '-' else '+') :: (List.replicate (width - size.length) '0' ++ size)

/-- The text of a number in a format. -/
def FloatFormat.write (format : FloatFormat) : Binary64 → List Char
  | .notANumber => "nan".toList
  | .infinite negative => (if negative then "-inf" else "inf").toList
  | .finite negative mantissa exponent =>
    let (digits, point) := shortestDigits mantissa exponent
    let body := if format.leastPoint ≤ point ∧ point ≤ format.mostPoint then positional digits point
      else scientific format.exponentWidth digits point
    if negative then '-' :: body else body

/-- The text of a floating-point number. -/
def floatText (x : Float) : String := String.ofList (plainFormat.write (Binary64.ofFloat x))

end ModuleSystem.Decimal
