import ModuleSystem.Datum.Layout
import ModuleSystem.World

/-!
# Values as text

A value is shown as the data that it is made of. Shared objects are followed, except that an object
inside itself is only hinted at; functions, records and the like are shown by a description.
-/

namespace ModuleSystem

/-- How shared objects are shown: the attributes of an exports object, and the source form of the id of
a module. -/
structure ObjectView where
  exportsOf : Nat → Datum
  idOf : Nat → String

/-- The description of a module record. -/
def ModuleRecord.text (record : ModuleRecord) (id : String) : String :=
  "<Module " ++ id ++ (if record.loaded.truth then " loaded>" else " loading>")

/-- The description of a `require` function by the id of the module that it belongs to. -/
def requireText (id : Option String) : String := "<require parent=" ++ id.getD "None" ++ ">"

/-- The description of a cache. -/
def cacheText (size : Nat) : String := "<ModuleCache entries=" ++ toString size ++ ">"

/-- The description of a system of modules. -/
def contextText (registry : Registry Nat) (cached : Nat) : String :=
  "<ModuleContext protocols=" ++ registry.protocolsText ++ " cached=" ++ toString cached ++ ">"

/-- The name of a function. -/
def Function.name : Function → String
  | .length => "len"
  | .readAttribute => "getattr"
  | .sourceForm => "repr"
  | .resolve _ => "resolve"
  | .cacheKeys => "ids"
  | .cacheState => "state"
  | .cachePeek => "peek"

/-- The description of a function. That of a method tells what it belongs to. -/
def Function.text (session : Session) (view : ObjectView) (f : Function) : String :=
  match f with
  | .resolve parent =>
    "<bound method Require.resolve of " ++ requireText (parent.map view.idOf) ++ ">"
  | .cacheKeys | .cacheState | .cachePeek =>
    "<bound method ModuleCache." ++ f.name ++ " of " ++ cacheText session.cache.size ++ ">"
  | .length | .readAttribute | .sourceForm => "<built-in function " ++ f.name ++ ">"

/-- The description of a type. -/
def kindText (name : String) : String :=
  if name = "EntryState" then "<enum 'EntryState'>"
  else "<class '" ++ Fault.qualifiedKind name ++ "'>"

namespace Value

mutual

/-- The data that show a value of a session. -/
def toDatum (session : Session) (view : ObjectView) : Value → Datum
  | .scalar s => .scalar s
  | .list _ items => .list (toData session view items)
  | .tuple _ items => .tuple (toData session view items)
  | .set _ items => .set (toData session view items)
  | .dict _ entries => .dict (toEntries session view entries)
  | .exports number => view.exportsOf number
  | .record number => .object "Module" ((session.rest.record number).text (view.idOf number))
  | .children number =>
    .list ((session.rest.record number).children.map fun child =>
      .object "Module" ((session.rest.record child).text (view.idOf child)))
  | .require parent => .object "Require" (requireText (parent.map view.idOf))
  | .cache => .object "ModuleCache" (cacheText session.cache.size)
  | .context => .object "ModuleContext" (contextText session.rest.registry session.cache.size)
  | .state s => .object "EntryState" ("<" ++ s.label ++ ": " ++ Text.quoted s.name ++ ">")
  | .error raised => .object raised.fault.kind raised.fault.repr
  | .kind name => .object "type" (kindText name)
  | .function f => .object (typeName (.function f)) (f.text session view)

/-- The data that show the items of a sequence. -/
def toData (session : Session) (view : ObjectView) : List Value → List Datum
  | [] => []
  | value :: rest => toDatum session view value :: toData session view rest

/-- The data that show the entries of a mapping. -/
def toEntries (session : Session) (view : ObjectView) :
    List (Value × Value) → List (Datum × Datum)
  | [] => []
  | (key, value) :: rest =>
    (toDatum session view key, toDatum session view value) :: toEntries session view rest

end

end Value

namespace Session

/-- What stands for an exports object inside itself. -/
def innerExports : Datum := .object "types.SimpleNamespace" "namespace(...)"

/-- The view of shared objects of which some are being shown already. The first argument bounds the
depth. -/
def viewWithin (session : Session) : Nat → List Nat → ObjectView
  | 0, _ => ⟨fun _ => innerExports, fun _ => "..."⟩
  | depth + 1, shown =>
    { exportsOf := fun number =>
        if shown.contains number then innerExports
        else .record ((session.rest.heap.attributes number).entries.map fun entry =>
          (entry.1, entry.2.toDatum session (viewWithin session depth (number :: shown))))
      idOf := fun number =>
        ((session.rest.record number).id.toDatum session (viewWithin session depth shown)).repr }

/-- The view of all shared objects. -/
def view (session : Session) : ObjectView :=
  session.viewWithin (session.rest.heap.exports.size + session.rest.records.size + 1) []

/-- The data that show a value. -/
def datumOf (session : Session) (value : Value) : Datum := value.toDatum session session.view

/-- The source form of a value. -/
def reprOf (session : Session) (value : Value) : String := (session.datumOf value).repr

/-- The plain form of a value. An error shows its message, and a state its label. -/
def plainOf (session : Session) (value : Value) : String :=
  match value with
  | .error raised => raised.fault.message
  | .state state => state.label
  | value => (session.datumOf value).plain

/-- The layout of a result. An exports object shows as the mapping of its attributes. -/
def layoutOf (session : Session) (value : Value) : String :=
  match value with
  | .exports number =>
    (Datum.dict ((session.rest.heap.attributes number).entries.map fun entry =>
      (.text entry.1, session.datumOf entry.2))).layout
  | value => (session.datumOf value).layout

/-- The description of a module. -/
def recordText (session : Session) (number : Nat) : String := session.reprOf (.record number)

end Session

end ModuleSystem
