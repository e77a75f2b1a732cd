import ModuleSystem.Identifier
import ModuleSystem.Value.Text

/-!
# Where a request goes

An identifier is classified, its loader is looked up, and the loader resolves the id as seen from the
module that asks. Protocol and resolved id make the key under which the module is known. Nothing of
this changes the cache, the records or the modules.
-/

namespace ModuleSystem

/-- Where a request goes: the loader, the id that it resolved, the key, and the name of the file. -/
structure Destination where
  loader : Nat
  resolved : String
  key : String
  filename : String
  deriving DecidableEq, Repr

namespace Session

/-- The part of the log that requests write to. -/
def runtimeSource : String := "modreq.runtime"

/-- An identifier as the log shows it. -/
def identifierText (identifier : Identifier) : String :=
  let protocol := match identifier.protocol with
    | some name => Text.quoted name
    | none => "None"
  "Descriptor(protocol=" ++ protocol ++ ", id=" ++ Text.quoted identifier.id ++ ", kind=" ++
    Text.quoted (Identifier.kindName identifier.kind) ++ ")"

/-- Remembers what a loader of prepared answers has been asked. -/
def recordCall (number : Nat) (call : LoaderCall) : SessionAction Unit :=
  change fun world => world.updateMounted number fun mounted =>
    match mounted.loader with
    | .prepared _ => { mounted with calls := call :: mounted.calls }
    | _ => mounted

/-- The loader with a number. -/
def loaderOf (world : World) (number : Nat) : Loader :=
  ((world.mounted[number]?).map Mounted.loader).getD (.memory .empty "/" [])

/-- Raises the error of a loader: one of the system itself as it is, another one as the failure to
load an id. -/
def raiseLoaderError {α : Type} (id : Datum) (fault : Fault) : SessionAction α :=
  if fault.isRequireError then raise fault
  else do
    let cause ← mark fault
    raiseBecause (.loaderFailure id fault true) cause

/-- The value of what a loader does for an id. -/
def fromLoader {α : Type} (id : Datum) (action : HostAction α) : SessionAction α := do
  match ← onHost action with
  | .value a => return a
  | .error fault => raiseLoaderError id fault
  | .interruption fault => raise fault

/-- The name of a module's file: files and bare names have the resolved id, and everything else has
its key. -/
def filenameOf (protocol : Option String) (resolved key : String) : String :=
  if protocol = none ∨ protocol = some Identifier.fileProtocol then resolved else key

/-- Where a request of a module goes. -/
def resolve (raw : Value) (parent : Option Nat) : SessionAction Destination := do
  let session ← Action.get
  let world := session.rest
  let identifier := Identifier.classify (session.plainOf raw)
  note runtimeSource ("classified " ++ session.reprOf raw ++ " as " ++ identifierText identifier)
  let number ← ofExcept (world.registry.find identifier.protocol identifier.id)
  let asking := parent.map world.record
  recordCall number (.resolve identifier.id (asking.map fun record => session.datumOf record.id))
  let resolved ← fromLoader (.text identifier.canonical)
    ((loaderOf world number).resolve identifier.id (asking.bind ModuleRecord.directory))
  let key := Identifier.canonicalId identifier.protocol resolved
  return ⟨number, resolved, key, filenameOf identifier.protocol resolved key⟩

end Session

end ModuleSystem
