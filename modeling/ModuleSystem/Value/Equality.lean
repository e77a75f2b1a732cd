import ModuleSystem.World

/-!
# Identity and equality of values

Two values may be one object, or equal by what they are made of. Equal numbers, texts and tuples may be one
object or several, as it suits the interpreter, except for the few that exist only once: where it is left
open, identity is not supported. Containers and exports objects are equal by their contents. A comparison of
objects that contain themselves may never end, which is an error. -/

namespace ModuleSystem

/-- Whether a scalar exists only once. -/
def Scalar.isUnique : Scalar → Bool
  | .null | .bool _ => true
  | .int n => -5 ≤ n && n ≤ 256
  | .text s => s = ""
  | .bytes b => b.isEmpty
  | _ => false

/-- Whether two scalars may be one object: they are equal, or both are no number at all. -/
def Scalar.mayBe (s t : Scalar) : Bool :=
  s.typeName = t.typeName && (s.same t ||
    match s, t with
    | .float x, .float y => x.isNaN && y.isNaN
    | _, _ => false)

/-- Why a comparison has no answer: an identity is left open, or the comparison never ends. -/
inductive Incomparable where
  | openIdentity
  | endless

/-- The error that a comparison without an answer ends with. -/
def Incomparable.fault : Incomparable → Fault
  | .openIdentity => .unsupported "identity of equal numbers, texts, tuples or methods"
  | .endless => .script .endlessComparison

/-- The answer of a comparison, if it has one. -/
abbrev Comparison (α : Type) := Except Incomparable α

namespace Value

/-- Whether two values are one and the same object. -/
def identical (a b : Value) : Comparison Bool :=
  match a, b with
  | .scalar s, .scalar t =>
    if s.mayBe t then if s.isUnique then .ok true else .error .openIdentity else .ok false
  | .tuple m xs, .tuple n ys =>
    if m = n || xs.isEmpty && ys.isEmpty then .ok true
    else if xs.length = ys.length then .error .openIdentity
    else .ok false
  | .list m _, .list n _ | .set m _, .set n _ | .dict m _, .dict n _ | .exports m, .exports n
  | .record m, .record n | .children m, .children n => .ok (m = n)
  | .require p, .require q => .ok (p = q)
  | .cache, .cache | .context, .context => .ok true
  | .state s, .state t => .ok (s = t)
  | .error r, .error s => .ok (r.serial = s.serial)
  | .kind s, .kind t => .ok (s = t)
  | .function f, .function g =>
    if f ≠ g then .ok false else if f.isMethod then .error .openIdentity else .ok true
  | _, _ => .ok false

/-- Whether two values without parts are equal: scalars by value, everything else by identity. -/
def sameSimple (a b : Value) : Comparison Bool :=
  match a, b with
  | .scalar s, .scalar t =>
    if s.same t then .ok true else if s.mayBe t then .error .openIdentity else .ok false
  | .function f, .function g => .ok (f = g)
  | a, b => identical a b

/-- Whether some item of a sequence passes a test, which is made of one item after the other. -/
def anyItem (test : Value → Comparison Bool) : List Value → Comparison Bool
  | [] => .ok false
  | value :: rest => do if ← test value then return true else anyItem test rest

/-- The first entry of a mapping whose key passes a test. -/
def findKeyed? (test : Value → Comparison Bool) :
    List (Value × Value) → Comparison (Option (Value × Value))
  | [] => .ok none
  | entry :: rest => do if ← test entry.1 then return some entry else findKeyed? test rest

/-- What a comparison of objects that are kept elsewhere depends on: the children of records, and whether two
exports objects are equal. -/
structure Sight where
  childrenOf : Nat → List Nat
  sameExports : Nat → Nat → Comparison Bool

/-- The items of a list, also of one that a record has of its children. -/
def Sight.items? (sight : Sight) : Value → Option (List Value)
  | .list _ items => some items
  | .children number => some ((sight.childrenOf number).map .record)
  | _ => none

mutual

/-- Whether two values are equal. One object is equal to itself, whatever it contains. -/
def sameIn (sight : Sight) : Value → Value → Comparison Bool
  | .list m xs, b =>
    match b, sight.items? b with
    | .list n ys, _ =>
      if m = n then .ok true else if xs.length = ys.length then sameItems sight xs ys else .ok false
    | _, some ys => if xs.length = ys.length then sameItems sight xs ys else .ok false
    | _, none => .ok false
  | .children m, b =>
    match b, sight.items? b with
    | .children n, _ => .ok (m = n || sight.childrenOf m = sight.childrenOf n)
    | _, some ys => .ok (sameRecords (sight.childrenOf m) ys)
    | _, none => .ok false
  | .tuple m xs, .tuple n ys => if m = n then .ok true else sameItems sight xs ys
  | .set m xs, .set n ys =>
    if m = n then .ok true else if xs.length = ys.length then allFound sight xs ys else .ok false
  | .dict m xs, .dict n ys =>
    if m = n then .ok true else if xs.length = ys.length then sameEntries sight xs ys else .ok false
  | .exports m, .exports n => if m = n then .ok true else sight.sameExports m n
  | a, b => sameSimple a b
where
  /-- Whether a sequence consists of some records. -/
  sameRecords : List Nat → List Value → Bool
    | [], [] => true
    | m :: rest, .record n :: others => m = n && sameRecords rest others
    | _, _ => false

/-- Whether two sequences are equal item by item. -/
def sameItems (sight : Sight) : List Value → List Value → Comparison Bool
  | [], [] => .ok true
  | x :: xs, y :: ys => do if ← sameIn sight x y then sameItems sight xs ys else return false
  | _, _ => .ok false

/-- Whether all items of a sequence are found in another one. -/
def allFound (sight : Sight) : List Value → List Value → Comparison Bool
  | [], _ => .ok true
  | x :: xs, ys => do if ← anyItem (sameIn sight x) ys then allFound sight xs ys else return false

/-- Whether all entries of a mapping are found in another one. -/
def sameEntries (sight : Sight) : List (Value × Value) → List (Value × Value) → Comparison Bool
  | [], _ => .ok true
  | (key, value) :: rest, entries => do
    match ← findKeyed? (sameIn sight key) entries with
    | none => return false
    | some entry => if ← sameIn sight value entry.2 then sameEntries sight rest entries else return false

end

/-- Whether all attributes of a table are found in another one with equal values. -/
def sameAttributes (sight : Sight) (other : Ordered Value) : List (String × Value) → Comparison Bool
  | [] => .ok true
  | (name, value) :: rest => do
    match other.get? name with
    | none => return false
    | some found => if ← sameIn sight value found then sameAttributes sight other rest else return false

end Value

namespace World

/-- What a comparison depends on where only so many comparisons of exports objects may be inside one
another. -/
def sight (world : World) : Nat → Value.Sight
  | 0 => ⟨fun number => (world.record number).children, fun _ _ => .error .endless⟩
  | depth + 1 =>
    { childrenOf := fun number => (world.record number).children
      sameExports := fun m n =>
        let table := world.heap.attributes m
        let other := world.heap.attributes n
        if table.size = other.size then Value.sameAttributes (world.sight depth) other table.entries
        else .ok false }

/-- Whether two values are equal. A comparison that comes to the same two exports objects again inside of
their own comparison never ends; any other is inside of fewer than there are pairs of exports objects. -/
def same (world : World) (a b : Value) : Comparison Bool :=
  Value.sameIn (world.sight (world.heap.exports.size * world.heap.exports.size + 1)) a b

/-- Whether a value is equal to an item of a sequence. -/
def foundAmong (world : World) (items : List Value) (value : Value) : Comparison Bool :=
  Value.anyItem (fun item => world.same item value) items

/-- The value stored under a key. -/
def lookup (world : World) (key : Value) (entries : List (Value × Value)) :
    Comparison (Option Value) := do
  return (← Value.findKeyed? (fun other => world.same other key) entries).map Prod.snd

/-- Stores a value under a key: an equal key keeps its place and its spelling. -/
def insert (world : World) (key value : Value) : List (Value × Value) → Comparison (List (Value × Value))
  | [] => .ok [(key, value)]
  | (k, old) :: rest => do
    if ← world.same k key then return (k, value) :: rest
    else return (k, old) :: (← world.insert key value rest)

/-- Stores all entries of a list, in order. -/
def insertAll (world : World) (entries : List (Value × Value)) :
    List (Value × Value) → Comparison (List (Value × Value))
  | [] => .ok entries
  | (key, value) :: rest => do world.insertAll (← world.insert key value entries) rest

end World

end ModuleSystem
