import ModuleSystem.Calendar
import ModuleSystem.Decimal.Binary64

/-!
# Data

The values that documents, settings and messages are made of: scalars, sequences, sets, mappings with
arbitrary keys, and records of named attributes. A mapping keeps its entries in order of insertion;
numbers of different kinds are the same key when they are equal.
-/

namespace ModuleSystem

/-- A value without parts. -/
inductive Scalar where
  | null
  | bool (b : Bool)
  | int (n : Int)
  | float (x : Float)
  | text (s : String)
  | bytes (b : List UInt8)
  | date (d : Date)
  | time (t : Time)
  | moment (m : Moment)
  deriving Inhabited, Repr

/-- A tree of data. An `object` is anything else, known by the name of its type and its text. -/
inductive Datum where
  | scalar (s : Scalar)
  | list (items : List Datum)
  | tuple (items : List Datum)
  | set (items : List Datum)
  | dict (entries : List (Datum × Datum))
  | record (attributes : List (String × Datum))
  | object (typeName text : String)
  deriving Inhabited, Repr

namespace Scalar

/-- The whole number that a scalar counts as, if it is equal to one. -/
def toInt? : Scalar → Option Int
  | .bool b => some (if b then 1 else 0)
  | .int n => some n
  | .float x => (Decimal.Binary64.ofFloat x).toInt?
  | _ => none

/-- Whether two scalars are equal. Numbers are compared by value, whatever their kind. -/
def same (a b : Scalar) : Bool :=
  match a, b with
  | .null, .null => true
  | .text s, .text t => s == t
  | .bytes s, .bytes t => s == t
  | .date s, .date t => s == t
  | .time s, .time t => s == t
  | .moment s, .moment t => s == t
  | .float x, .float y => x == y
  | a, b =>
    match a.toInt?, b.toInt? with
    | some m, some n => m == n
    | _, _ => false

/-- Whether a scalar counts as true in a condition. -/
def truth : Scalar → Bool
  | .null => false
  | .bool b => b
  | .int n => n != 0
  | .float x => x != 0
  | .text s => s != ""
  | .bytes b => !b.isEmpty
  | .date _ | .time _ | .moment _ => true

/-- The name of the type of a scalar, with the name of the library part that has it. -/
def typeName : Scalar → String
  | .null => "NoneType"
  | .bool _ => "bool"
  | .int _ => "int"
  | .float _ => "float"
  | .text _ => "str"
  | .bytes _ => "bytes"
  | .date _ => "datetime.date"
  | .time _ => "datetime.time"
  | .moment _ => "datetime.datetime"

end Scalar

namespace Datum

/-- The absent value. -/
abbrev null : Datum := .scalar .null

/-- A truth value. -/
abbrev bool (b : Bool) : Datum := .scalar (.bool b)

/-- A whole number. -/
abbrev int (n : Int) : Datum := .scalar (.int n)

/-- A floating-point number. -/
abbrev float (x : Float) : Datum := .scalar (.float x)

/-- A text. -/
abbrev text (s : String) : Datum := .scalar (.text s)

/-- A byte string. -/
abbrev bytes (b : List UInt8) : Datum := .scalar (.bytes b)

mutual

/-- Whether two data are equal as values. -/
def same : Datum → Datum → Bool
  | .scalar a, .scalar b => a.same b
  | .list xs, .list ys => sameItems xs ys
  | .tuple xs, .tuple ys => sameItems xs ys
  | _, _ => false

/-- Whether two sequences are equal item by item. -/
def sameItems : List Datum → List Datum → Bool
  | [], [] => true
  | x :: xs, y :: ys => same x y && sameItems xs ys
  | _, _ => false

end

/-- Whether a value counts as true in a condition. -/
def truth : Datum → Bool
  | .scalar s => s.truth
  | .list items | .tuple items | .set items => !items.isEmpty
  | .dict entries => !entries.isEmpty
  | .record _ | .object _ _ => true

/-- The name of the type of a value. -/
def typeName : Datum → String
  | .scalar s => s.typeName
  | .list _ => "list"
  | .tuple _ => "tuple"
  | .set _ => "set"
  | .dict _ => "dict"
  | .record _ => "types.SimpleNamespace"
  | .object name _ => name

/-- The value stored under a key. -/
def lookup? (key : Datum) : List (Datum × Datum) → Option Datum
  | [] => none
  | (k, value) :: rest => if k.same key then some value else lookup? key rest

/-- Stores a value under a key: an equal key keeps its place and its spelling. -/
def insert (key value : Datum) : List (Datum × Datum) → List (Datum × Datum)
  | [] => [(key, value)]
  | (k, old) :: rest =>
    if k.same key then (k, value) :: rest else (k, old) :: insert key value rest

/-- Stores all entries of a list, in order. -/
def insertAll (entries more : List (Datum × Datum)) : List (Datum × Datum) :=
  more.foldl (fun all entry => insert entry.1 entry.2 all) entries

/-- The value stored under a text key. -/
def field? (name : String) (entries : List (Datum × Datum)) : Option Datum :=
  lookup? (.text name) entries

/-- The type of the first part that keeps a value from being a key, if there is one. Sequences that
can change and mappings are no keys. -/
def unhashable? : Datum → Option String
  | .scalar _ => none
  | .list _ => some "list"
  | .set _ => some "set"
  | .dict _ => some "dict"
  | .record _ => some "types.SimpleNamespace"
  | .object _ _ => none
  | .tuple items => firstUnhashable items
where
  firstUnhashable : List Datum → Option String
    | [] => none
    | x :: xs =>
      match unhashable? x with
      | some name => some name
      | none => firstUnhashable xs

end Datum

end ModuleSystem
