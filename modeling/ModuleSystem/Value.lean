import ModuleSystem.Fault.Text
import ModuleSystem.Ordered

/-!
# Values of running programs

What a script computes with: data, and references to objects that several places share. Exports
objects and module records are kept elsewhere and known here by their numbers, and so is the list of the
children of a record, which grows with the record. Containers carry the mark with which they were made, so
that one can be told from another with the same items.
-/

namespace ModuleSystem

/-- The functions that scripts can call: general ones, and those that belong to an object. A `require`
function belongs to the module that asks. -/
inductive Function where
  | length
  | readAttribute
  | sourceForm
  | resolve (parent : Option Nat)
  | cacheKeys
  | cacheState
  | cachePeek
  deriving DecidableEq, Repr

/-- Whether a function belongs to an object. -/
def Function.isMethod : Function → Bool
  | .length | .readAttribute | .sourceForm => false
  | .resolve _ | .cacheKeys | .cacheState | .cachePeek => true

/-- A value. -/
inductive Value where
  | scalar (s : Scalar)
  | list (mark : Nat) (items : List Value)
  | tuple (mark : Nat) (items : List Value)
  | set (mark : Nat) (items : List Value)
  | dict (mark : Nat) (entries : List (Value × Value))
  | exports (number : Nat)
  | record (number : Nat)
  | children (number : Nat)
  | require (parent : Option Nat)
  | cache
  | context
  | state (state : Cache.EntryState)
  | error (raised : Raised)
  | kind (name : String)
  | function (function : Function)
  deriving Inhabited, Repr

/-- The exports objects by number, the count of the marks that have been given to containers and to errors,
and the causes of failures by the serial numbers of the failures, the latest first. -/
structure Heap where
  exports : Array (Ordered Value)
  marks : Nat
  causes : List (Nat × Raised)

namespace Heap

/-- The heap without objects. -/
def empty : Heap := ⟨#[], 0, []⟩

/-- The heap after one more mark has been given. -/
def marked (heap : Heap) : Heap := { heap with marks := heap.marks + 1 }

/-- Links a failure to the error that caused it. -/
def link (heap : Heap) (serial : Nat) (cause : Raised) : Heap :=
  { heap with causes := (serial, cause) :: heap.causes }

/-- The heap with one more exports object. -/
def push (heap : Heap) (attributes : Ordered Value) : Heap :=
  { heap with exports := heap.exports.push attributes }

/-- The attributes of an exports object. -/
def attributes (heap : Heap) (number : Nat) : Ordered Value := (heap.exports[number]?).getD .empty

/-- Sets an attribute of an exports object. -/
def setAttribute (heap : Heap) (number : Nat) (name : String) (value : Value) : Heap :=
  { heap with exports := heap.exports.modify number fun table => table.set name value }

end Heap

namespace Value

/-- The absent value. -/
abbrev null : Value := .scalar .null

/-- A truth value. -/
abbrev bool (b : Bool) : Value := .scalar (.bool b)

/-- A whole number. -/
abbrev int (n : Int) : Value := .scalar (.int n)

/-- A text. -/
abbrev text (s : String) : Value := .scalar (.text s)

/-- A text, or nothing. -/
def ofText? : Option String → Value
  | some s => .text s
  | none => .null

/-- Whether a value is the absent value. -/
def isNull : Value → Bool
  | .scalar .null => true
  | _ => false

/-- The name of the type of a value, with the name of the library part that has it. -/
def typeName : Value → String
  | .scalar s => s.typeName
  | .list _ _ => "list"
  | .tuple _ _ => "tuple"
  | .set _ _ => "set"
  | .dict _ _ => "dict"
  | .exports _ => "types.SimpleNamespace"
  | .record _ => "Module"
  | .children _ => "list"
  | .require _ => "Require"
  | .cache => "ModuleCache"
  | .context => "ModuleContext"
  | .state _ => "EntryState"
  | .error raised => raised.fault.kind
  | .kind _ => "type"
  | .function f => if f.isMethod then "method" else "builtin_function_or_method"

/-- The name of a type without the name of the library part that has it. -/
def shortName (type : String) : String :=
  String.ofList (type.toList.reverse.takeWhile (· ≠ '.')).reverse

/-- The name of the type of a value alone. -/
def shortTypeName (value : Value) : String := shortName value.typeName

mutual

/-- A value made of data, with new containers and exports objects. -/
def ofDatum (heap : Heap) : Datum → Value × Heap
  | .scalar s => (.scalar s, heap)
  | .list items =>
    let (values, next) := ofItems heap.marked items
    (.list heap.marks values, next)
  | .tuple items =>
    let (values, next) := ofItems heap.marked items
    (.tuple heap.marks values, next)
  | .set items =>
    let (values, next) := ofItems heap.marked items
    (.set heap.marks values, next)
  | .dict entries =>
    let (values, next) := ofEntries heap.marked entries
    (.dict heap.marks values, next)
  | .record attributes =>
    let (values, next) := ofAttributes heap attributes
    (.exports next.exports.size, next.push (Ordered.ofList values))
  | .object _ text => (.text text, heap)

/-- Values made of the items of a sequence. -/
def ofItems (heap : Heap) : List Datum → List Value × Heap
  | [] => ([], heap)
  | item :: rest =>
    let (value, heap) := ofDatum heap item
    let (values, heap) := ofItems heap rest
    (value :: values, heap)

/-- Values made of the entries of a mapping. -/
def ofEntries (heap : Heap) : List (Datum × Datum) → List (Value × Value) × Heap
  | [] => ([], heap)
  | (key, item) :: rest =>
    let (key, heap) := ofDatum heap key
    let (value, heap) := ofDatum heap item
    let (values, heap) := ofEntries heap rest
    ((key, value) :: values, heap)

/-- Values made of the attributes of a record. -/
def ofAttributes (heap : Heap) : List (String × Datum) → List (String × Value) × Heap
  | [] => ([], heap)
  | (name, item) :: rest =>
    let (value, heap) := ofDatum heap item
    let (values, heap) := ofAttributes heap rest
    ((name, value) :: values, heap)

end

/-- Whether it depends on the value alone that it counts as true or not. -/
def hasTruth : Value → Bool
  | .children _ | .cache => false
  | _ => true

/-- Whether a value of which this is known counts as true in a condition. -/
def truth : Value → Bool
  | .scalar s => s.truth
  | .list _ items | .tuple _ items | .set _ items => !items.isEmpty
  | .dict _ entries => !entries.isEmpty
  | _ => true

/-- The type of the first part that keeps a value from being a key, if there is one. -/
def unhashable? : Value → Option String
  | .list _ _ | .children _ => some "list"
  | .set _ _ => some "set"
  | .dict _ _ => some "dict"
  | .exports _ => some "types.SimpleNamespace"
  | .tuple _ items => firstUnhashable items
  | _ => none
where
  firstUnhashable : List Value → Option String
    | [] => none
    | x :: xs =>
      match unhashable? x with
      | some name => some name
      | none => firstUnhashable xs

end Value

end ModuleSystem
