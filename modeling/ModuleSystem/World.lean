import ModuleSystem.Cache.Basic
import ModuleSystem.Evaluators
import ModuleSystem.Loader.Basic
import ModuleSystem.Registry
import ModuleSystem.Value

/-!
# The state of a system of modules

The world holds the host, the loaders and builtins that are registered, the records of modules, and
the objects that modules share. The state of a system is its cache beside its world. A pending entry
of the cache holds the number of the record of its module, whose exports stand for the unfinished
value.
-/

namespace ModuleSystem

/-- What is known about a module: its id, the name of its file, the module that first asked for it,
its exports, whether it is loaded, and the modules that it was the first to ask for. Scripts may assign more
attributes, and another parent, which then stands in front of this one. -/
structure ModuleRecord where
  id : Value
  filename : Option String
  parent : Option Nat
  exports : Value
  loaded : Value
  children : List Nat
  canRequire : Bool
  assigned : Ordered Value
  deriving Inhabited

/-- The directory of a module's file, if its file has an absolute name. -/
def ModuleRecord.directory (record : ModuleRecord) : Option String :=
  (record.filename.filter Path.isAbsolute).map Path.directory

/-- A record after another attribute has been assigned. The name of its file is a text or nothing. -/
def ModuleRecord.assign (record : ModuleRecord) (name : String) (value : Value) : ModuleRecord :=
  match name, value with
  | "filename", .scalar (.text filename) => { record with filename := some filename }
  | "filename", _ => { record with filename := none }
  | name, value => { record with assigned := record.assigned.set name value }

/-- A module made by the program itself: the exports that it sets, the modules that it asks for and
exports, the error that it raises, and the value that replaces its exports unless it is null. -/
structure Builtin where
  exports : List (String × Datum)
  requires : List (String × Datum)
  raises : Option Fault
  returns : Datum

/-- What a loader of prepared answers has been asked, with the id of the module that asks. -/
inductive LoaderCall where
  | resolve (id : String) (parent : Option Datum)
  | load (id : String)

/-- A registered loader, with the number of its loads and what it has been asked, the latest first. -/
structure Mounted where
  loader : Loader
  loads : Nat
  calls : List LoaderCall

/-- What is done to load a module: its loader is asked for the source, its source is evaluated, or the
builtin of its name is made. -/
inductive Work where
  | fetch
  | evaluate
  | make
  deriving DecidableEq, Repr

/-- What happens to modules: what the cache does with a key, the work done for a key with the record of
its module, a new record with its exports, exports that are assigned to a record, exports of a record
that are lent out while its module is being loaded, those that its script begins with, an id, a mark of being
loaded or another attribute that a script assigns to a record, and an error of the system that a script
makes. -/
inductive Happening where
  | cache (event : Cache.Event Nat Value Raised)
  | work (work : Work) (key : String) (number : Nat)
  | create (exports : Value)
  | assign (number : Nat) (exports : Value)
  | lend (number : Nat) (exports : Value)
  | enter (number : Nat) (exports : Value)
  | rename (number : Nat) (id : Value)
  | flag (number : Nat) (loaded : Value)
  | alter (number : Nat) (name : String) (value : Value)
  | make (fault : Fault)
  deriving Repr

/-- Everything of a system of modules but its cache. The history tells what has happened to modules so
far, the latest first; nothing that a program does depends on it. -/
structure World where
  host : Host
  registry : Registry Nat
  mounted : Array Mounted
  evaluators : EvaluatorTable
  builtins : Ordered Builtin
  builtinCalls : List Datum
  heap : Heap
  records : Array ModuleRecord
  modules : Ordered Nat
  main : Option Nat
  scope : Option (Ordered Value)
  history : List Happening

/-- The state of a system of modules: its cache beside its world. -/
abbrev Session := Cache.Held Nat Value Raised World

/-- What a session does. -/
abbrev SessionAction (α : Type) := Action Session Raised α

namespace World

/-- A world without loaders and modules. -/
def empty (host : Host) : World where
  host
  registry := .empty
  mounted := #[]
  evaluators := .standard
  builtins := .empty
  builtinCalls := []
  heap := .empty
  records := #[]
  modules := .empty
  main := none
  scope := none
  history := []

/-- The record with a number. -/
def record (world : World) (number : Nat) : ModuleRecord := (world.records[number]?).getD default

/-- Changes a record. -/
def updateRecord (world : World) (number : Nat) (f : ModuleRecord → ModuleRecord) : World :=
  { world with records := world.records.modify number f }

/-- Adds to the history. -/
def tell (world : World) (happening : Happening) : World :=
  { world with history := happening :: world.history }

/-- Assigns the exports of a record. -/
def assignExports (world : World) (number : Nat) (exports : Value) : World :=
  (world.updateRecord number fun record => { record with exports }).tell (.assign number exports)

/-- Assigns the id of a record. -/
def assignId (world : World) (number : Nat) (id : Value) : World :=
  (world.updateRecord number fun record => { record with id }).tell (.rename number id)

/-- Assigns whether a record is loaded. -/
def assignLoaded (world : World) (number : Nat) (loaded : Value) : World :=
  (world.updateRecord number fun record => { record with loaded }).tell (.flag number loaded)

/-- Assigns another attribute of a record. -/
def assignAttribute (world : World) (number : Nat) (name : String) (value : Value) : World :=
  (world.updateRecord number fun record => record.assign name value).tell (.alter number name value)

/-- Links a failure to the error that caused it. -/
def link (world : World) (serial : Nat) (cause : Raised) : World :=
  { world with heap := world.heap.link serial cause }

/-- Makes an error of the system for a script, which may have a cause. Its serial number is the old number of
marks. -/
def makeError (world : World) (fault : Fault) (cause : Option Raised) : World :=
  let heap := match cause with
    | some cause => world.heap.link world.heap.marks cause
    | none => world.heap
  { world.tell (.make fault) with heap := heap.marked }

/-- Adds a record with new exports; its number is the old number of records. -/
def addRecord (world : World) (id : String) (filename : Option String) (parent : Option Nat) :
    World :=
  { world.tell (.create (.exports world.heap.exports.size)) with
    heap := world.heap.push .empty
    records := world.records.push
      { id := .text id, filename, parent, exports := .exports world.heap.exports.size
        loaded := .bool false, children := [], canRequire := true, assigned := .empty } }

/-- Attaches a record: it becomes the module of its key and a child of its parent. -/
def attach (world : World) (key : String) (number : Nat) : World :=
  let world := { world with modules := world.modules.set key number }
  match (world.record number).parent with
  | some parent =>
    world.updateRecord parent fun record => { record with children := record.children ++ [number] }
  | none => world

/-- Changes a registered loader. -/
def updateMounted (world : World) (number : Nat) (f : Mounted → Mounted) : World :=
  { world with mounted := world.mounted.modify number f }

/-- Registers a loader for a protocol. -/
def register (world : World) (protocol : Datum) (loader : Loader) : Except Fault World := do
  let registry ← world.registry.register protocol (some world.mounted.size)
  return { world with registry, mounted := world.mounted.push ⟨loader, 0, []⟩ }

/-- Registers a loader for bare names, or removes it. -/
def registerBare (world : World) (loader : Option Loader) : World :=
  match loader with
  | some loader =>
    { world with
      registry := world.registry.registerBare (some world.mounted.size)
      mounted := world.mounted.push ⟨loader, 0, []⟩ }
  | none => { world with registry := world.registry.registerBare none }

end World

namespace Session

/-- A session without modules. -/
def empty (host : Host) : Session := ⟨.empty, .empty host⟩

/-- The world. -/
def world : SessionAction World := Action.gets fun session => session.rest

/-- Changes the world. -/
def change (f : World → World) : SessionAction Unit := Action.modify fun session => session.update f

/-- Gives an error that has not been raised before its mark. -/
def mark (fault : Fault) : SessionAction Raised := do
  let world ← world
  change fun world => { world with heap := world.heap.marked }
  return ⟨world.heap.marks, fault⟩

/-- Raises an error that has been made before. -/
def raiseAgain {α : Type} (raised : Raised) : SessionAction α :=
  if raised.fault.isInterruption then Action.interrupt raised else Action.fail raised

/-- Raises an error that has not been raised before. -/
def raise {α : Type} (fault : Fault) : SessionAction α := do
  let raised ← mark fault
  raiseAgain raised

/-- Raises an error because of another one, to which it is linked. -/
def raiseBecause {α : Type} (fault : Fault) (cause : Raised) : SessionAction α := do
  let raised ← mark fault
  change fun world => world.link raised.serial cause
  raiseAgain raised

/-- Ends a program whose next operation is not supported. -/
def unsupported {α : Type} (operation : String) : SessionAction α := raise (.unsupported operation)

/-- Writes a line of the lowest level to the log. -/
def note (source text : String) : SessionAction Unit :=
  change fun world => { world with host := world.host.write .debug source text }

/-- The outcome of an action on the host. -/
def onHost {α : Type} (action : HostAction α) : SessionAction (Outcome Fault α) := fun session =>
  let (outcome, host) := action session.rest.host
  (.value outcome, session.update fun world => { world with host })

/-- The value of a computation that may fail. -/
def ofExcept {α : Type} : Except Fault α → SessionAction α
  | .ok a => Action.pure a
  | .error fault => raise fault

/-- A value made of data. -/
def ofDatum (datum : Datum) : SessionAction Value := do
  let world ← world
  let (value, heap) := Value.ofDatum world.heap datum
  change fun world => { world with heap }
  return value

/-- A record for a module, with new exports. -/
def newRecord (id : String) (filename : Option String) (parent : Option Nat) :
    SessionAction Nat := do
  let world ← world
  change fun world => world.addRecord id filename parent
  return world.records.size

end Session

end ModuleSystem
