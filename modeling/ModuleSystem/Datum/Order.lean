import ModuleSystem.Datum.Basic

/-!
# The order of keys

A layout lists the entries of a mapping by key. Values of comparable kinds are compared as such:
numbers by value, texts by code points, sequences item by item. Values of different kinds are
compared by the names of their types.
-/

namespace ModuleSystem

namespace Decimal.Binary64

/-- A finite number as a fraction. -/
def fraction? : Binary64 → Option (Int × Nat)
  | finite negative mantissa exponent =>
    let scale := Decimal.powerOfTwo exponent.natAbs
    let size : Int := if 0 ≤ exponent then mantissa * scale else mantissa
    some (if negative then -size else size, if 0 ≤ exponent then 1 else scale)
  | _ => none

end Decimal.Binary64

namespace Scalar

/-- The number of a scalar as a fraction; an infinity counts as a fraction over zero. -/
def fraction? : Scalar → Option (Int × Nat)
  | .bool b => some (if b then 1 else 0, 1)
  | .int n => some (n, 1)
  | .float x =>
    match Decimal.Binary64.ofFloat x with
    | .notANumber => none
    | .infinite negative => some (if negative then -1 else 1, 0)
    | other => other.fraction?
  | _ => none

/-- Whether the first scalar is smaller, if the two can be compared. -/
def less? (a b : Scalar) : Option Bool :=
  match a, b with
  | .text s, .text t => some (s < t)
  | .bytes s, .bytes t => some (s.map UInt8.toNat < t.map UInt8.toNat)
  | .date s, .date t => some ([s.year, s.month, s.day] < [t.year, t.month, t.day])
  | .moment s, .moment t => some (s.text < t.text)
  | .time s, .time t => some (s.text < t.text)
  | a, b =>
    match a.fraction?, b.fraction? with
    | some (m, d), some (n, e) => some (m * e < n * d)
    | _, _ => none

end Scalar

namespace Datum

/-- Whether the first value is smaller, if the two can be compared. -/
def less? : Datum → Datum → Option Bool
  | .scalar a, .scalar b => a.less? b
  | .list xs, .list ys | .tuple xs, .tuple ys => lessItems? xs ys
  | _, _ => none
where
  /-- The first difference decides; of two sequences one of which starts the other, the shorter is
  smaller. -/
  lessItems? : List Datum → List Datum → Option Bool
    | [], ys => some (!ys.isEmpty)
    | _ :: _, [] => some false
    | x :: xs, y :: ys => if x.same y then lessItems? xs ys else less? x y

/-- Whether the first value comes before the second in a listing. -/
def precedes (a b : Datum) : Bool :=
  match a.less? b with
  | some less => less
  | none => a.typeName < b.typeName

/-- Values with their keys, in the order of the keys; equal keys stay in their order. -/
def sortByKey {α : Type} (entries : List (Datum × α)) : List (Datum × α) :=
  entries.mergeSort fun a b => !precedes b.1 a.1

end Datum

end ModuleSystem
