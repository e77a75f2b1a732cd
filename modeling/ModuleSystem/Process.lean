import ModuleSystem.Session

/-!
# Processes

A process has any number of contexts, which are systems of modules of their own. Each has its loaders,
builtins and modules, and uses one of the caches of the process: one that it is given when it is made, or a
new one. The host, values and the records of modules are those of the process.

While a context is at work the process is its session. A value that stands for a context, a cache or a
function to ask with does not tell whose it is, and stands for that of the session. So a process is a model
only of contexts that keep such values to themselves. If one of them reaches another context through a shared
cache and is used there, that is not covered.
-/

namespace ModuleSystem

/-- What a context has of its own, and the number of the cache that it uses. -/
structure Context where
  cache : Nat
  registry : Registry Nat
  mounted : Array Mounted
  evaluators : EvaluatorTable
  builtins : Ordered Builtin
  builtinCalls : List Datum
  modules : Ordered Nat
  main : Option Nat
  scope : Option (Ordered Value)

/-- What the contexts of a process have in common beside their caches. -/
structure Surroundings where
  host : Host
  heap : Heap
  records : Array ModuleRecord
  history : List Happening

/-- Contexts and caches by their numbers. -/
structure Process where
  contexts : Array Context
  caches : Array (Cache Nat Value Raised)
  surroundings : Surroundings

namespace Context

/-- A context without loaders and modules. -/
def new (cache : Nat) : Context where
  cache
  registry := .empty
  mounted := #[]
  evaluators := .standard
  builtins := .empty
  builtinCalls := []
  modules := .empty
  main := none
  scope := none

/-- The world of a context. -/
def world (context : Context) (surroundings : Surroundings) : World where
  host := surroundings.host
  registry := context.registry
  mounted := context.mounted
  evaluators := context.evaluators
  builtins := context.builtins
  builtinCalls := context.builtinCalls
  heap := surroundings.heap
  records := surroundings.records
  modules := context.modules
  main := context.main
  scope := context.scope
  history := surroundings.history

end Context

namespace World

/-- What a world leaves to its context. -/
def context (world : World) (cache : Nat) : Context where
  cache
  registry := world.registry
  mounted := world.mounted
  evaluators := world.evaluators
  builtins := world.builtins
  builtinCalls := world.builtinCalls
  modules := world.modules
  main := world.main
  scope := world.scope

/-- What a world leaves to all contexts. -/
def surroundings (world : World) : Surroundings :=
  ⟨world.host, world.heap, world.records, world.history⟩

end World

namespace Process

/-- A process without contexts. -/
def empty (host : Host) : Process := ⟨#[], #[], (World.empty host).surroundings⟩

/-- The cache with a number. -/
def cacheOf (process : Process) (number : Nat) : Cache Nat Value Raised :=
  (process.caches[number]?).getD .empty

/-- The session of a context. In it every value that stands for a context, a cache or a function to ask with
is bound to this context. -/
def enter (process : Process) (context : Context) : Session :=
  ⟨process.cacheOf context.cache, context.world process.surroundings⟩

/-- The process after the session of a context with a number. -/
def leave (process : Process) (number : Nat) (context : Context) (session : Session) : Process where
  contexts := process.contexts.modify number fun _ => session.rest.context context.cache
  caches := process.caches.modify context.cache fun _ => session.cache
  surroundings := session.rest.surroundings

/-- Has the context with a number at work. -/
def work (process : Process) (number : Nat) (f : Session → Session) : Process :=
  match process.contexts[number]? with
  | some context => process.leave number context (f (process.enter context))
  | none => process

/-- Makes a context, which may be given a cache. Whether one has been given is told by a test that fails for a
cache without entries as well. This is a slip and not a rule: such a cache is dropped, and the context makes a
new one instead. -/
def create (process : Process) (given : Option Nat) : Process :=
  match given.filter fun number => 0 < (process.cacheOf number).size with
  | some number => { process with contexts := process.contexts.push (.new number) }
  | none =>
    { process with
      contexts := process.contexts.push (.new process.caches.size)
      caches := process.caches.push .empty }

/-- Arranges a context anew, which keeps its cache: loaders, evaluators and builtins may be registered or
removed, and files may be written. -/
def arrange (process : Process) (number : Nat) (context : Context) (host : Host) : Process :=
  { process with
    contexts := process.contexts.modify number fun old => { context with cache := old.cache }
    surroundings := { process.surroundings with host } }

end Process

end ModuleSystem
