import ModuleSystem.Script.Reader
import ModuleSystem.Script.Run

/-!
# Loading modules

`require` answers a request for a module through the cache. A key that has no entry is loaded: its
loader gives the source, the record of the module is attached, and the source is evaluated with the
record at hand. Modules that ask for one another in a cycle get the exports as they are at that
moment. The error of a module is wrapped once, where it arises, and passes unchanged from there on.
-/

namespace ModuleSystem.Session

open Cache (getOrLoad)

/-- The part of the log that the cache writes to. -/
def cacheSource : String := "modreq.cache"

/-- What the log says of what happens to a request. It is silent about the end of a load. -/
def eventText? : Cache.Event Nat Value Raised → Option String
  | .hit key => some ("cache hit " ++ key)
  | .failureHit key => some ("cached failure " ++ key)
  | .cycle key _ => some ("cyclic require of " ++ key ++ ", returning partial exports")
  | .load key _ => some ("loading " ++ key)
  | _ => none

/-- Writes what happens to a request to the log and to the history. -/
def noteEvent (event : Cache.Event Nat Value Raised) (world : World) : World :=
  let world := match eventText? event with
    | some text => { world with host := world.host.write .debug cacheSource text }
    | none => world
  world.tell (.cache event)

/-- The exports of a record. -/
def exportsOf (number : Nat) : SessionAction Value :=
  Action.gets fun session => (session.rest.record number).exports

/-- The exports of a record whose module is being loaded, as they are at the moment. -/
def lendExports (number : Nat) : SessionAction Value := do
  let exports ← exportsOf number
  change fun world => world.tell (.lend number exports)
  return exports

/-- What the cache of a session works with: a pending entry stands for the exports that its record has
at the moment. -/
def hooks : Cache.Hooks Nat Value Raised World where
  note := noteEvent
  readPart := lendExports
  noPart key := raise (.cyclicRequire (.text key))

/-- Marks a record as loaded. Its exports are the value of the module. -/
def finish (number : Nat) : SessionAction Value := do
  change fun world =>
    world.updateRecord number fun record => { record with loaded := .bool true }
  exportsOf number

/-- Wraps an error that arises in the code of a module, unless it is one of the system itself. -/
def wrapFailure {α : Type} (number : Nat) (action : SessionAction α) : SessionAction α :=
  Action.handle action fun raised =>
    if raised.fault.isRequireError then Action.fail raised
    else do
      let session ← Action.get
      raiseBecause (.evaluationFailure (session.datumOf (session.rest.record number).id) raised.fault true)
        raised

/-! ## Evaluating -/

/-- The variables of a module. -/
def moduleScope (world : World) (number : Nat) : Ordered Value :=
  let record := world.record number
  let filename := Value.ofText? record.filename
  Ordered.ofList
    [("__name__", record.id), ("__file__", filename), ("module", .record number),
      ("exports", record.exports),
      ("require", if record.canRequire then .require (some number) else .null),
      ("__filename", filename), ("__dirname", .ofText? record.directory)]

/-- A source as the text of a script. Bytes have to be UTF-8. -/
def scriptText (source : Datum) : SessionAction String :=
  match source with
  | .scalar (.text text) => if FileTree.hasNul text then raise .nulInSource else Action.pure text
  | .scalar (.bytes bytes) =>
    match Text.readUtf8 (Text.dropUtf8Mark bytes) with
    | .ok chars => Action.pure (String.ofList chars)
    | .error _ => raise (.unreadableSource 1 1)
  | _ => raise .sourceNotText

/-- Reads a source as statements. -/
def readStatements (source : Datum) : SessionAction (List Script.Stmt) := do
  let text ← scriptText source
  match Script.readScript text with
  | .ok statements => return statements
  | .error place => raise (.unreadableSource place.line place.column)

/-- Runs a source as the script of a module. It is read as a whole before any of it runs. -/
def evaluateScript (require : Script.Requirer) (source : Datum) (number : Nat) :
    SessionAction Value := do
  let statements ← readStatements source
  let world ← world
  change fun world => world.tell (.enter number (world.record number).exports)
  Script.inScope (moduleScope world number) (Script.runSource require statements)
  finish number

/-- The name of the format in which a module is read as a document: the given one, or that of the
extension of its name. -/
def formatFor (format : Option String) (name : String) : Option String :=
  match format.filter (· ≠ "") with
  | some format => some format
  | none => (Document.Format.ofExtension? (Path.extension name)).map Document.Format.name

/-- Reads a source as a document, which becomes the exports of a module. -/
def evaluateDocument (format : Option String) (source : Datum) (name : String) (number : Nat) :
    SessionAction Value := do
  let datum ← ofExcept ((Document.read (formatFor format name) none source).mapError .document)
  let value ← ofDatum datum
  change fun world => world.assignExports number value
  finish number

/-- Evaluates a source as a module. -/
def evaluateWith (require : Script.Requirer) (evaluator : Evaluator) (source : Datum)
    (name : String) (number : Nat) : SessionAction Value :=
  match evaluator with
  | .script => evaluateScript require source number
  | .data format => evaluateDocument format source name number

/-! ## Loading -/

/-- The source of a destination. -/
def fetchSource (destination : Destination) : SessionAction Datum := do
  let world ← world
  let loader := loaderOf world destination.loader
  note runtimeSource ("loading " ++ destination.key ++ " via " ++ loader.text)
  change fun world => world.updateMounted destination.loader fun mounted =>
    { mounted with loads := mounted.loads + 1 }
  recordCall destination.loader (.load destination.resolved)
  fromLoader (.text destination.key) (loader.load destination.resolved)

/-- A source as evaluators take it: bytes are text in UTF-8. -/
def decodeSource : Datum → Datum
  | .scalar (.bytes bytes) => .text (String.ofList (Text.decodeUtf8 bytes))
  | source => source

/-- Loads a destination as the module of a record. -/
def load (require : Script.Requirer) (destination : Destination) (number : Nat) :
    SessionAction Value := do
  change fun world => world.tell (.work .fetch destination.key number)
  let source ← fetchSource destination
  change fun world => world.attach destination.key number
  change fun world => world.tell (.work .evaluate destination.key number)
  let name := EvaluatorTable.nameOf destination.key (some destination.filename)
  let world ← world
  wrapFailure number
    (evaluateWith require (world.evaluators.find name) (decodeSource source) name number)

/-- Exports some values. -/
def exportAll (number : Nat) : List (String × Datum) → SessionAction Unit
  | [] => Action.pure ()
  | (name, datum) :: rest => do
    let value ← ofDatum datum
    let exports ← exportsOf number
    Script.setMember exports name value
    exportAll number rest

/-- Asks for some modules and exports them. -/
def exportRequired (require : Script.Requirer) (number : Nat) :
    List (String × Datum) → SessionAction Unit
  | [] => Action.pure ()
  | (name, identifier) :: rest => do
    let identifier ← ofDatum identifier
    let value ← require (some number) identifier
    let exports ← exportsOf number
    Script.setMember exports name value
    exportRequired require number rest

/-- Makes a builtin. -/
def makeBuiltin (require : Script.Requirer) (builtin : Builtin) (number : Nat) :
    SessionAction Value := do
  let session ← Action.get
  let id := session.datumOf (session.rest.record number).id
  change fun world => { world with builtinCalls := id :: world.builtinCalls }
  exportAll number builtin.exports
  exportRequired require number builtin.requires
  match builtin.raises with
  | some fault => raise fault
  | none => ofDatum builtin.returns

/-- Loads a builtin as the module of a record. A value that it returns replaces its exports. -/
def loadBuiltin (require : Script.Requirer) (key : String) (builtin : Builtin) (number : Nat) :
    SessionAction Value := do
  change fun world => world.attach key number
  change fun world => world.tell (.work .make key number)
  let value ← wrapFailure number (makeBuiltin require builtin number)
  if !value.isNull then
    change fun world => world.assignExports number value
  finish number

/-- The value of a destination. If it is asked for as the main module, its record becomes the main
one, unless the module has a record already. -/
def requireDestination (require : Script.Requirer) (asMain : Bool) (parent : Option Nat)
    (destination : Destination) : SessionAction Value := do
  let number ← newRecord destination.key (some destination.filename) parent
  if asMain then
    change fun world =>
      { world with main := some ((world.modules.get? destination.key).getD number) }
  getOrLoad hooks destination.key (some number) (load require destination number)

/-- Answers a request. The first argument answers the requests that modules make on the way. -/
def dispatch (require : Script.Requirer) (asMain : Bool) (parent : Option Nat) (raw : Value) :
    SessionAction Value := do
  let session ← Action.get
  match raw with
  | .scalar (.text name) =>
    if name = "" then raise (.identifierNotText (session.reprOf raw))
    else
      match session.rest.builtins.get? name with
      | some builtin => do
        let number ← newRecord name none parent
        getOrLoad hooks name (some number) (loadBuiltin require name builtin number)
      | none => do
        let destination ← resolve raw parent
        requireDestination require asMain parent destination
  | _ => raise (.identifierNotText (session.reprOf raw))

/-- Answers a request. Requests that are made inside more loads than the given depth are answered by
the first argument. -/
def requireWithin (beyond : Script.Requirer) : Nat → Bool → Script.Requirer
  | 0, _ => beyond
  | depth + 1, asMain => dispatch (requireWithin beyond depth false) asMain

/-- Refuses a request that is made inside too many loads, which ends the program. -/
def refuse : Script.Requirer := fun _ _ => do
  let raised ← mark .nestingTooDeep
  Action.interrupt raised

/-- How many keys some registered loaders may have a source for, at most. -/
def sourceTotal (world : World) : List (Option String × Nat) → Nat
  | [] => 0
  | (_, number) :: rest => (loaderOf world number).sourceBound world.host + sourceTotal world rest

/-- How many loads can be active at one time, at most: as many as there are keys with a source, and
one more that has none. -/
def nestingBound (world : World) : Nat :=
  world.builtins.size + sourceTotal world world.registry.loaderEntries + 1

/-- Answers a request of a module. -/
def require (parent : Option Nat) (raw : Value) : SessionAction Value := do
  let world ← world
  requireWithin refuse (nestingBound world) false parent raw

/-- Answers a request for a file as the main module. -/
def requireMain (path : String) : SessionAction Value := do
  let world ← world
  let path := Path.absolute world.host.files.workingDirectory path
  requireWithin refuse (nestingBound world) true none (.text path)

end ModuleSystem.Session
