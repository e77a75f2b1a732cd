import ModuleSystem.Fault.Text

/-!
# Registries

A registry keeps loaders by the protocol that they serve, and one loader for bare names. A later
registration replaces an earlier one.
-/

namespace ModuleSystem

/-- Loaders by protocol, and the one for bare names. A protocol may be known without a loader. -/
structure Registry (α : Type) where
  loaders : Ordered (Option α)
  bare : Option α

namespace Registry

variable {α : Type}

/-- The registry without loaders. -/
def empty : Registry α := ⟨.empty, none⟩

/-- Registers the loader of a protocol, which has to be a text that is not empty. -/
def register (registry : Registry α) (protocol : Datum) (loader : Option α) :
    Except Fault (Registry α) :=
  match protocol with
  | .scalar (.text name) =>
    if name = "" then .error (.protocolNotText protocol.repr)
    else .ok { registry with loaders := registry.loaders.set name loader }
  | _ => .error (.protocolNotText protocol.repr)

/-- Sets or removes the loader for bare names. -/
def registerBare (registry : Registry α) (loader : Option α) : Registry α :=
  { registry with bare := loader }

/-- The loader of a protocol, or the one for bare names if there is no protocol. -/
def find (registry : Registry α) (protocol : Option String) (id : String) : Except Fault α :=
  match protocol with
  | none =>
    match registry.bare with
    | some loader => .ok loader
    | none => .error (.noBareLoader (.text id))
  | some name =>
    match registry.loaders.get? name with
    | some (some loader) => .ok loader
    | _ => .error (.unsupportedProtocol (.text name))

/-- The loader of a protocol that is given by any value. -/
def findBy (registry : Registry α) (protocol : Datum) (id : String) : Except Fault α :=
  match protocol with
  | .scalar .null => registry.find none id
  | .scalar (.text name) => registry.find (some name) id
  | _ =>
    match protocol.unhashable? with
    | some type => .error (.coercion (.unhashable type))
    | none => .error (.unsupportedProtocol protocol)

/-- The registered loaders with their protocols. The loader for bare names has none. -/
def loaderEntries (registry : Registry α) : List (Option String × α) :=
  (registry.bare.map fun loader => (none, loader)).toList ++
    registry.loaders.entries.filterMap fun entry =>
      entry.2.map fun loader => (some entry.1, loader)

/-- Whether a value is a registered protocol. -/
def contains (registry : Registry α) (protocol : Datum) : Except Fault Bool :=
  match protocol with
  | .scalar (.text name) => .ok (registry.loaders.contains name)
  | _ =>
    match protocol.unhashable? with
    | some type => .error (.coercion (.unhashable type))
    | none => .ok false

/-- The registered protocols in alphabetical order. -/
def protocols (registry : Registry α) : List String :=
  registry.loaders.keys.mergeSort fun a b => decide (a ≤ b)

/-- The protocols of a registry as a message shows them. -/
def protocolsText (registry : Registry α) : String :=
  (Datum.list (registry.protocols.map .text)).repr

/-- The text of a registry, given the texts of its loaders. -/
def text (registry : Registry α) (loaderText : α → String) : String :=
  "<LoaderRegistry protocols=" ++ registry.protocolsText ++ " bare=" ++
    (match registry.bare with
      | some loader => loaderText loader
      | none => "None") ++ ">"

theorem register_text (registry : Registry α) {name : String} (nonempty : name ≠ "")
    (loader : Option α) :
    registry.register (.text name) loader =
      .ok { registry with loaders := registry.loaders.set name loader } := by
  simp [register, nonempty]

end Registry

end ModuleSystem
