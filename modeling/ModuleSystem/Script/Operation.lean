import ModuleSystem.Script.Member

/-!
# Operations of scripts

What the operators and functions of scripts do with values. Operations on shared objects read and
change the session; an operation that a value does not have is an error. Errors of all kinds can be made by
calling their kinds, also errors of the system of modules, whose kinds are known from errors that have been
handled. They keep their arguments as data.
-/

namespace ModuleSystem.Script

open Session (raise unsupported)

/-- Gives a new container its mark. -/
def mark : SessionAction Nat := do
  let world ← Session.world
  Session.change fun world => { world with heap := world.heap.marked }
  return world.heap.marks

/-- A new list. -/
def newList (items : List Value) : SessionAction Value := do
  let number ← mark
  return .list number items

/-- A new tuple. -/
def newTuple (items : List Value) : SessionAction Value := do
  let number ← mark
  return .tuple number items

/-- The answer of a comparison. -/
def compared {α : Type} (comparison : Comparison α) : SessionAction α :=
  Session.ofExcept (comparison.mapError Incomparable.fault)

/-- A new mapping. Of equal keys the first gives the place and the last the value. -/
def newDict (entries : List (Value × Value)) : SessionAction Value := do
  match entries.findSome? fun entry => entry.1.unhashable? with
  | some type => mistake (.unhashable type)
  | none =>
    let world ← Session.world
    let entries ← compared (world.insertAll [] entries)
    let number ← mark
    return .dict number entries

/-! ## Items -/

/-- A whole number that counts as an index. -/
def index? : Value → Option Int
  | .scalar (.int n) => some n
  | .scalar (.bool b) => some (if b then 1 else 0)
  | _ => none

/-- Whether a number has the size of an index, which is a signed word of 64 bits. -/
def isIndexSized (n : Int) : Bool := -0x8000000000000000 ≤ n && n < 0x8000000000000000

/-- The item at an index; negative ones count from the end. -/
def itemAt {α : Type} (type : String) (items : List α) (key : Value) : SessionAction α :=
  match index? key with
  | none => mistake (.badIndex type key.typeName)
  | some n =>
    let position := if n < 0 then n + items.length else n
    if !isIndexSized n then mistake .indexTooLarge
    else if position < 0 then mistake (.indexOutOfRange type)
    else
      match items[position.toNat]? with
      | some item => Action.pure item
      | none => mistake (.indexOutOfRange type)

/-- The items of a list, also of one that a record has of its children. -/
def items? (world : World) : Value → Option (List Value)
  | .list _ items => some items
  | .children number => some ((world.record number).children.map .record)
  | _ => none

/-- The value of a mapping under a key. -/
def entryAt (entries : List (Value × Value)) (key : Value) : SessionAction Value :=
  match key.unhashable? with
  | some type => mistake (.unhashable type)
  | none => do
    let session ← Action.get
    match ← compared (session.rest.lookup key entries) with
    | some value => return value
    | none => mistake (.missingKey (session.datumOf key))

/-- The item of a value at a key. -/
def item (object key : Value) : SessionAction Value :=
  match object with
  | .tuple _ items => itemAt "tuple" items key
  | .scalar (.text s) => do
    let c ← itemAt "string" s.toList key
    return .text (String.singleton c)
  | .dict _ entries => entryAt entries key
  | .scalar (.bytes _) | .kind _ => unsupported ("an item of " ++ object.typeName)
  | object => do
    let world ← Session.world
    match items? world object with
    | some items => itemAt "list" items key
    | none => mistake (.notSubscriptable object.typeName)

/-- Goes on with a value that can be a key. -/
def hashed {α : Type} (value : Value) (action : SessionAction α) : SessionAction α :=
  match value.unhashable? with
  | some type => mistake (.unhashable type)
  | none => action

/-- Whether some items contain a value. -/
def foundAmong (items : List Value) (value : Value) : SessionAction Bool := do
  let world ← Session.world
  compared (world.foundAmong items value)

/-- Whether a cache has a key. -/
def cacheContains (key : Value) : SessionAction Bool := do
  let session ← Action.get
  match key with
  | .scalar (.text key) => return session.cache.contains key
  | _ => return false

/-- Whether a collection contains an item. -/
def contains (item collection : Value) : SessionAction Bool :=
  match collection with
  | .tuple _ items => foundAmong items item
  | .set _ items => hashed item (foundAmong items item)
  | .dict _ entries => hashed item (foundAmong (entries.map Prod.fst) item)
  | .cache => hashed item (cacheContains item)
  | .scalar (.text s) =>
    match item with
    | .scalar (.text part) => Action.pure (Text.occursIn part.toList s.toList)
    | _ => mistake (.needsTextOperand item.typeName)
  | .scalar (.bytes _) | .kind _ => unsupported ("a search in " ++ collection.typeName)
  | collection => do
    let world ← Session.world
    match items? world collection with
    | some items => foundAmong items item
    | none => mistake (.notIterable collection.typeName)

/-- The number of items of a value. -/
def length (value : Value) : SessionAction Nat :=
  match value with
  | .scalar (.text s) => Action.pure s.length
  | .scalar (.bytes b) => Action.pure b.length
  | .tuple _ items | .set _ items => Action.pure items.length
  | .dict _ entries => Action.pure entries.length
  | .cache => Action.gets fun session => session.cache.size
  | .kind _ => unsupported "the length of a type"
  | value => do
    let world ← Session.world
    match items? world value with
    | some items => return items.length
    | none => mistake (.noLength value.typeName)

/-! ## Arithmetic -/

/-- A number: whole or floating. -/
inductive Number where
  | whole (n : Int)
  | floating (x : Float)

/-- The number that a value is. -/
def number? : Value → Option Number
  | .scalar (.int n) => some (.whole n)
  | .scalar (.bool b) => some (.whole (if b then 1 else 0))
  | .scalar (.float x) => some (.floating x)
  | _ => none

/-- A number as a floating-point number. -/
def toFloat : Number → SessionAction Float
  | .floating x => Action.pure x
  | .whole n =>
    match Decimal.floatOfInt? n with
    | some x => Action.pure x
    | none => raise (.coercion .integerTooLarge)

/-- The sum of two numbers. -/
def sumOfNumbers (left right : Value) : SessionAction Value :=
  match number? left, number? right with
  | some (.whole m), some (.whole n) => Action.pure (.int (m + n))
  | some a, some b => do
    let x ← toFloat a
    let y ← toFloat b
    return .scalar (.float (x + y))
  | _, _ => mistake (.unsupportedOperands "+" left.typeName right.typeName)

/-- The sum of two values: of numbers, or of sequences of one type. -/
def sum (left right : Value) : SessionAction Value :=
  match left, right with
  | .scalar (.text s), .scalar (.text t) => Action.pure (.text (s ++ t))
  | .scalar (.text _), _ => mistake (.onlyConcatenate "str" right.typeName)
  | .scalar (.bytes s), .scalar (.bytes t) => Action.pure (.scalar (.bytes (s ++ t)))
  | .scalar (.bytes _), _ =>
    mistake (.wrongArguments ("can't concat " ++ right.typeName ++ " to bytes"))
  | .tuple _ xs, .tuple _ ys => newTuple (xs ++ ys)
  | .tuple _ _, _ => mistake (.onlyConcatenate "tuple" right.typeName)
  | left, right => do
    let world ← Session.world
    match items? world left, items? world right with
    | some xs, some ys => newList (xs ++ ys)
    | some _, none => mistake (.onlyConcatenate "list" right.typeName)
    | none, _ => sumOfNumbers left right

/-- The quotient of two whole numbers. -/
def quotientOf (m n : Int) : SessionAction Value :=
  if n = 0 then mistake (.divisionByZero "division by zero")
  else
    let x := Decimal.Binary64.floatOfRatio ((m < 0) ≠ (n < 0) && m ≠ 0) m.natAbs n.natAbs
    if x.isInf then
      raise (.named "OverflowError" [.text "integer division result too large for a float"])
    else Action.pure (.scalar (.float x))

/-- The quotient of two values. -/
def quotient (left right : Value) : SessionAction Value :=
  match number? left, number? right with
  | some (.whole m), some (.whole n) => quotientOf m n
  | some a, some b => do
    let x ← toFloat a
    let y ← toFloat b
    if y == 0 then mistake (.divisionByZero "float division by zero")
    else return .scalar (.float (x / y))
  | _, _ => mistake (.unsupportedOperands "/" left.typeName right.typeName)

/-- A value with the opposite sign. -/
def negative (value : Value) : SessionAction Value :=
  match number? value with
  | some (.whole n) => Action.pure (.int (-n))
  | some (.floating x) => Action.pure (.scalar (.float (-x)))
  | none =>
    mistake (.wrongArguments ("bad operand type for unary -: '" ++ value.typeName ++ "'"))

/-! ## Functions -/

/-- Names in quotes, as a message lists them. -/
def listNames : List String → String
  | [] => ""
  | [name] => "'" ++ name ++ "'"
  | [first, last] => "'" ++ first ++ "' and '" ++ last ++ "'"
  | name :: rest => "'" ++ name ++ "', " ++ listNames rest

/-- Refuses a wrong number of arguments of a method with some parameters. -/
def wrongCount {α : Type} (method : String) (parameters : List String) (given : Nat) :
    SessionAction α :=
  let missing := parameters.drop given
  mistake (.wrongArguments (
    if missing.isEmpty then
      method ++ "() takes " ++ toString (parameters.length + 1) ++ " positional argument" ++
        (if parameters.isEmpty then "" else "s") ++ " but " ++ toString (given + 1) ++ " were given"
    else
      method ++ "() missing " ++ toString missing.length ++ " required positional argument" ++
        (if missing.length = 1 then "" else "s") ++ ": " ++ listNames missing))

/-- The state of a key of the cache. -/
def cacheState (key : Value) : SessionAction Value :=
  match key with
  | .scalar (.text id) => do
    let session ← Action.get
    return ((session.cache.state? id).map Value.state).getD .null
  | key =>
    match key.unhashable? with
    | some type => mistake (.unhashable type)
    | none => Action.pure .null

/-- The value of a key that is resolved. -/
def cachePeek (key : Value) : SessionAction Value := do
  let session ← Action.get
  let absent : SessionAction Value := raise (.absentKey (session.datumOf key))
  match key with
  | .scalar (.text id) =>
    match session.cache.peek? id with
    | some value => return value
    | none => absent
  | key =>
    match key.unhashable? with
    | some type => mistake (.unhashable type)
    | none => absent

/-- An attribute of a value, or a default if it has none. -/
def memberOr (object : Value) (name : String) (default : Value) : SessionAction Value :=
  Action.handle (member object name) fun raised =>
    if raised.fault.isA "AttributeError" then Action.pure default else Session.raiseAgain raised

/-- The name that a value gives for an attribute. -/
def attributeName (value : Value) : SessionAction String :=
  match value with
  | .scalar (.text name) => Action.pure name
  | _ => mistake (.wrongArguments ("attribute name must be string, not '" ++ value.typeName ++ "'"))

/-- Calls a function. -/
def callFunction (function : Function) (arguments : List Value) : SessionAction Value :=
  match function, arguments with
  | .length, [value] => do
    let n ← length value
    return .int n
  | .length, _ => mistake (.wrongArguments ("len() takes exactly one argument (" ++
      toString arguments.length ++ " given)"))
  | .readAttribute, [object, name] => do
    let name ← attributeName name
    member object name
  | .readAttribute, [object, name, default] => do
    let name ← attributeName name
    memberOr object name default
  | .readAttribute, _ =>
    mistake (.wrongArguments (
      if arguments.length < 2 then
        "getattr expected at least 2 arguments, got " ++ toString arguments.length
      else "getattr expected at most 3 arguments, got " ++ toString arguments.length))
  | .sourceForm, [value] => do
    let session ← Action.get
    return .text (session.reprOf value)
  | .sourceForm, _ => mistake (.wrongArguments ("repr() takes exactly one argument (" ++
      toString arguments.length ++ " given)"))
  | .resolve parent, [raw] => do
    let destination ← Session.resolve raw parent
    return .text destination.key
  | .resolve _, _ => wrongCount "Require.resolve" ["name"] arguments.length
  | .cacheKeys, [] => do
    let session ← Action.get
    newList (session.cache.keys.map .text)
  | .cacheKeys, _ => wrongCount "ModuleCache.ids" [] arguments.length
  | .cacheState, [key] => cacheState key
  | .cacheState, _ => wrongCount "ModuleCache.state" ["id"] arguments.length
  | .cachePeek, [key] => cachePeek key
  | .cachePeek, _ => wrongCount "ModuleCache.peek" ["id"] arguments.length

/-! ## Kinds -/

/-- The type of a value. That of an error is not supported if it may be a kind below the one that is known. -/
def typeOf (value : Value) : SessionAction Value :=
  match value with
  | .error raised =>
    if raised.fault.isVague then unsupported ("the exact kind of a " ++ raised.fault.kind)
    else Action.pure (.kind raised.fault.kind)
  | value => Action.pure (.kind value.typeName)

/-- A value as text. -/
def textOf (value : Value) : SessionAction Value := do
  let session ← Action.get
  return .text (session.plainOf value)

mutual

/-- Whether a value consists of data alone. -/
def isData : Value → Bool
  | .scalar _ => true
  | .list _ items | .tuple _ items | .set _ items => areData items
  | .dict _ entries => haveData entries
  | _ => false

/-- Whether some values consist of data alone. -/
def areData : List Value → Bool
  | [] => true
  | value :: rest => isData value && areData rest

/-- Whether some entries consist of data alone. -/
def haveData : List (Value × Value) → Bool
  | [] => true
  | (key, value) :: rest => isData key && isData value && haveData rest

end

/-- The data that some values are. An error that keeps anything else is not supported. -/
def dataOf (values : List Value) : SessionAction (List Datum) := do
  let session ← Action.get
  if areData values then return values.map session.datumOf
  else unsupported "an error that keeps an object"

/-- Makes an error of the system. -/
def makeOwn (fault : Fault) (cause : Option Raised) : SessionAction Raised := do
  let world ← Session.world
  Session.change fun world => world.makeError fault cause
  return ⟨world.heap.marks, fault⟩

/-- Makes an error of the system that is about one thing. -/
def makeAbout (kind parameter : String) (fault : Datum → Fault) (arguments : List Value) :
    SessionAction Raised :=
  match arguments with
  | [subject] => do
    match ← dataOf [subject] with
    | [datum] => makeOwn (fault datum) none
    | _ => unsupported "an error that keeps an object"
  | _ => wrongCount (kind ++ ".__init__") [parameter] arguments.length

/-- Makes the failure of an id because of another error. -/
def makeFailure (kind : String) (fault : Datum → Fault → Fault) (arguments : List Value) :
    SessionAction Raised :=
  match arguments with
  | [id, .error cause] => do
    match ← dataOf [id] with
    | [datum] => makeOwn (fault datum cause.fault) (some cause)
    | _ => unsupported "an error that keeps an object"
  | [_, _] => unsupported "a failure whose cause is no error"
  | _ => wrongCount (kind ++ ".__init__") ["id", "cause"] arguments.length

/-- A new error of a kind. -/
def newError (kind : String) (arguments : List Value) : SessionAction Raised :=
  match kind with
  | "RequireError" => do
    let arguments ← dataOf arguments
    makeOwn (.requireError arguments) none
  | "UnsupportedProtocol" => makeAbout kind "protocol" .unsupportedProtocol arguments
  | "NoBareLoader" => makeAbout kind "id" .noBareLoader arguments
  | "CyclicRequireError" => makeAbout kind "id" .cyclicRequire arguments
  | "LoaderFailure" => makeFailure kind (.loaderFailure · · false) arguments
  | "EvaluationFailure" => makeFailure kind (.evaluationFailure · · false) arguments
  | kind =>
    if Fault.takesAny kind arguments.length then do
      let arguments ← dataOf arguments
      Session.mark (.named kind arguments)
    else unsupported ("making a " ++ kind)

/-- Calls a type: errors are made by theirs. -/
def callKind (kind : String) (arguments : List Value) : SessionAction Value :=
  match kind, arguments with
  | "type", [value] => typeOf value
  | "type", [_, _, _] => unsupported "a new type"
  | "type", _ => mistake (.wrongArguments "type() takes 1 or 3 arguments")
  | "str", [] => Action.pure (.text "")
  | "str", [value] => textOf value
  | kind, arguments =>
    if Fault.isErrorKind kind then do
      let raised ← newError kind arguments
      return .error raised
    else unsupported ("a call of " ++ kind)

/-- The names of the wider language that are not supported. -/
def widerNames : List String :=
  ["abs", "aiter", "all", "anext", "any", "ascii", "bin", "bool", "breakpoint", "bytearray", "bytes",
   "callable", "chr", "classmethod", "compile", "complex", "copyright", "credits", "delattr", "dict", "dir",
   "divmod", "enumerate", "eval", "exec", "exit", "filter", "float", "format", "frozenset", "globals",
   "hasattr", "hash", "help", "hex", "id", "input", "int", "isinstance", "issubclass", "iter", "license",
   "list", "locals", "map", "max", "memoryview", "min", "next", "object", "oct", "open", "ord", "pow",
   "print", "property", "quit", "range", "reversed", "round", "set", "setattr", "slice", "sorted",
   "staticmethod", "sum", "super", "tuple", "vars", "zip", "Ellipsis", "NotImplemented", "ExceptionGroup",
   "__name__", "__doc__", "__package__", "__loader__", "__spec__", "__build_class__", "__import__",
   "__debug__", "__builtins__"]

/-- The values of the names that every script knows. -/
def commonName? (name : String) : Option Value :=
  match name with
  | "len" => some (.function .length)
  | "getattr" => some (.function .readAttribute)
  | "repr" => some (.function .sourceForm)
  | "str" | "type" => some (.kind name)
  | _ => if Fault.isCommonKind name then some (.kind (Fault.kindOfName name)) else none

/-- The value of a name that is no variable. -/
def commonName (name : String) : SessionAction Value :=
  match commonName? name with
  | some value => Action.pure value
  | none =>
    if widerNames.contains name then unsupported ("the name " ++ name)
    else mistake (.undefinedName name)

/-- Raises a value: an error, or a new error of a kind. -/
def raiseValue {α : Type} (value : Value) : SessionAction α :=
  match value with
  | .error raised => Session.raiseAgain raised
  | .kind kind =>
    if Fault.isErrorKind kind then do
      let raised ← newError kind []
      Session.raiseAgain raised
    else mistake .notRaisable
  | _ => mistake .notRaisable

/-- The kind of errors that a value is, if it is one. -/
def errorKind? : Value → Option String
  | .kind name => if Fault.isErrorKind name then some name else none
  | _ => none

/-- Whether an error is of the kind that a value names, or of one of several kinds. -/
def matchesKind (fault : Fault) (value : Value) : SessionAction Bool :=
  let kinds : List Value := match value with
    | .tuple _ items => items
    | value => [value]
  let names := kinds.filterMap errorKind?
  if names.length < kinds.length then mistake .notCatchable
  else if names.any fault.isA then Action.pure true
  else if fault.isVague && names.any fun name => Fault.kindIs name fault.kind then
    unsupported ("the exact kind of a " ++ fault.kind)
  else Action.pure false

end ModuleSystem.Script
