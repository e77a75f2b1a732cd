import ModuleSystem.Resolve
import ModuleSystem.Value.Equality

/-!
# Attributes of values

The attributes that scripts can read and assign. The values of the wider language have more of them: methods
of texts and containers, parts of contexts and caches, names between double underscores. These are listed
here, so that reading or assigning one is told from asking for an attribute which does not exist: the former
is not supported, the latter is an error of the script. Attributes can be assigned to exports and to records
of modules, but not the children of a record and its function to ask with. To assign one to an error, to a
function to ask with, to a context or to a cache is not supported. -/

namespace ModuleSystem.Script

open Session (raise unsupported)

/-- Raises a mistake of a script. -/
def mistake {α : Type} (problem : ScriptProblem) : SessionAction α := raise (.script problem)

/-- Whether a name stands between double underscores. -/
def isInternal (name : String) : Bool :=
  let chars := name.toList
  4 < chars.length && chars.take 2 = ['_', '_'] && chars.reverse.take 2 = ['_', '_']

/-! ## Attributes that are not supported -/

/-- The methods of texts and of bytes. -/
def textMembers : List String :=
  ["capitalize", "center", "count", "endswith", "expandtabs", "find", "index", "isalnum", "isalpha",
   "isascii", "isdigit", "islower", "isspace", "istitle", "isupper", "join", "ljust", "lower", "lstrip",
   "maketrans", "partition", "removeprefix", "removesuffix", "replace", "rfind", "rindex", "rjust",
   "rpartition", "rsplit", "rstrip", "split", "splitlines", "startswith", "strip", "swapcase", "title",
   "translate", "upper", "zfill"]

/-- The attributes of dates. -/
def dateMembers : List String :=
  ["ctime", "day", "fromisocalendar", "fromisoformat", "fromordinal", "fromtimestamp", "isocalendar",
   "isoformat", "isoweekday", "max", "min", "month", "replace", "resolution", "strftime", "timetuple",
   "today", "toordinal", "weekday", "year"]

/-- The attributes of times. -/
def timeMembers : List String :=
  ["dst", "fold", "fromisoformat", "hour", "isoformat", "max", "microsecond", "min", "minute", "replace",
   "resolution", "second", "strftime", "tzinfo", "tzname", "utcoffset"]

/-- The attributes of errors of a kind, beside those of all errors. -/
def errorMembers : List (String × List String) :=
  [("BaseException", ["args", "with_traceback", "add_note"]), ("SystemExit", ["code"]),
    ("OSError", ["errno", "filename", "filename2", "strerror", "characters_written"]),
    ("SyntaxError", ["end_lineno", "end_offset", "filename", "lineno", "msg", "offset",
                     "print_file_and_line", "text"]),
    ("UnicodeError", ["encoding", "end", "object", "reason", "start"]),
    ("ImportError", ["msg", "name", "path"]), ("StopIteration", ["value"]), ("NameError", ["name"]),
    ("AttributeError", ["name", "obj"]), ("JSONDecodeError", ["colno", "doc", "lineno", "msg", "pos"]),
    ("YAMLError", ["character", "context", "context_mark", "encoding", "name", "note", "position",
                   "problem", "problem_mark", "reason"]),
    ("ExpatError", ["code", "lineno", "offset"]), ("ConnectError", ["request"]), ("ReadTimeout", ["request"]),
    ("ConnectTimeout", ["request"]), ("PoolTimeout", ["request"]), ("UnsupportedProtocol", ["protocol"]),
    ("NoBareLoader", ["id"]), ("CyclicRequireError", ["id"]), ("LoaderFailure", ["id", "cause"]),
    ("EvaluationFailure", ["id", "cause"])]

/-- The attributes of values of a type, by the name of the type. Those of errors depend on their kind. -/
def membersOf (type : String) : List String :=
  match type with
  | "str" => textMembers ++ ["casefold", "encode", "format", "format_map", "isdecimal", "isidentifier",
                             "isnumeric", "isprintable"]
  | "bytes" => textMembers ++ ["decode", "fromhex", "hex"]
  | "int" | "bool" =>
    ["as_integer_ratio", "bit_count", "bit_length", "conjugate", "denominator", "from_bytes", "imag",
     "numerator", "real", "to_bytes"]
  | "float" => ["as_integer_ratio", "conjugate", "fromhex", "hex", "imag", "is_integer", "real"]
  | "list" => ["append", "clear", "copy", "count", "extend", "index", "insert", "pop", "remove", "reverse",
               "sort"]
  | "tuple" => ["count", "index"]
  | "set" =>
    ["add", "clear", "copy", "difference", "difference_update", "discard", "intersection",
     "intersection_update", "isdisjoint", "issubset", "issuperset", "pop", "remove", "symmetric_difference",
     "symmetric_difference_update", "union", "update"]
  | "dict" => ["clear", "copy", "fromkeys", "get", "items", "keys", "pop", "popitem", "setdefault",
               "update", "values"]
  | "datetime.date" => dateMembers
  | "datetime.time" => timeMembers
  | "datetime.datetime" =>
    dateMembers ++ timeMembers ++ ["astimezone", "combine", "date", "now", "strptime", "time", "timestamp",
                                   "timetz", "utcfromtimestamp", "utcnow", "utctimetuple"]
  | "Module" => ["id", "filename", "parent", "exports", "loaded", "children", "require", "dirname"]
  | "Require" => ["context", "parent", "resolve", "cache", "main"]
  | "ModuleCache" => ["get_or_load", "state", "peek", "ids", "_lock", "_entries", "_load"]
  | "ModuleContext" =>
    ["config", "registry", "cache", "evaluators", "builtins", "modules", "main", "require", "register",
     "register_bare", "define", "resolve", "arequire", "format_error", "run_main", "handle_script",
     "_script_namespace", "_require", "_new_module", "_attach", "_load", "_load_builtin", "_namespace",
     "_run_source"]
  | "EntryState" => ["PENDING", "RESOLVED", "FAILED", "value", "name", "_value_", "_name_", "_sort_order_"]
  | "type" => ["mro"]
  | type =>
    if Fault.isErrorKind type then
      (errorMembers.filter fun entry => Fault.kindIs type entry.1).flatMap Prod.snd
    else []

/-- Whether values of a type have an attribute of some name, or the type itself has. -/
def hasMember (type name : String) : Bool := isInternal name || (membersOf type).contains name

/-- The type that an error about a missing attribute names: a method is looked at as its function. -/
def reportedType (value : Value) : String :=
  match value with
  | .function f => if f.isMethod then "function" else value.typeName
  | value => value.typeName

/-- Ends the search for an attribute of a value: it may exist without being supported. -/
def missing {α : Type} (object : Value) (name : String) : SessionAction α :=
  match object with
  | .kind kind =>
    if hasMember kind name || hasMember "type" name then unsupported ("attribute " ++ name)
    else mistake (.noTypeAttribute kind name)
  | object =>
    if hasMember object.typeName name then unsupported ("attribute " ++ name)
    else mistake (.noAttribute (reportedType object) name)

/-! ## Reading attributes -/

/-- An attribute of a module record. What a script has assigned stands in front of what it was made with. -/
def recordMember? (world : World) (number : Nat) (name : String) : Option Value :=
  let record := world.record number
  match record.assigned.get? name with
  | some value => some value
  | none =>
    match name with
    | "id" => some record.id
    | "filename" => some (.ofText? record.filename)
    | "dirname" => some (.ofText? record.directory)
    | "exports" => some record.exports
    | "loaded" => some record.loaded
    | "parent" => some ((record.parent.map Value.record).getD .null)
    | "children" => some (.children number)
    | "require" => some (if record.canRequire then .require (some number) else .null)
    | _ => none

/-- An attribute of a `require` function. -/
def requireMember? (world : World) (parent : Option Nat) (name : String) : Option Value :=
  match name with
  | "resolve" => some (.function (.resolve parent))
  | "cache" => some .cache
  | "main" => some ((world.main.map Value.record).getD .null)
  | "parent" => some ((parent.map Value.record).getD .null)
  | "context" => some .context
  | _ => none

/-- An attribute of a system of modules. -/
def contextMember? (world : World) (name : String) : Option Value :=
  match name with
  | "cache" => some .cache
  | "main" => some ((world.main.map Value.record).getD .null)
  | "require" => some (.require none)
  | _ => none

/-- An attribute of a cache. -/
def cacheMember? (name : String) : Option Value :=
  match name with
  | "ids" => some (.function .cacheKeys)
  | "state" => some (.function .cacheState)
  | "peek" => some (.function .cachePeek)
  | _ => none

/-- An attribute of the state of an entry. -/
def stateMember? (state : Cache.EntryState) (name : String) : Option Value :=
  match name with
  | "value" => some (.text state.name)
  | "name" => some (.text state.name.toUpper)
  | _ => none

/-- An attribute of a value that is known without making anything. -/
def member? (world : World) (object : Value) (name : String) : Option Value :=
  match object with
  | .exports number => (world.heap.attributes number).get? name
  | .record number => recordMember? world number name
  | .require parent => requireMember? world parent name
  | .cache => cacheMember? name
  | .context => contextMember? world name
  | .state state => stateMember? state name
  | .kind kind => if name = "__name__" then some (.text (Value.shortName kind)) else none
  | _ => none

/-- Whether the arguments that an error keeps are known. Errors about the form of a text keep more of it. -/
def keepsArguments (fault : Fault) : Bool :=
  fault.hasFixedMessage && !(fault matches .undecodable _)

/-- An attribute of an error that is made of data: what the error is about. -/
def errorDatum? (fault : Fault) (name : String) : Option Datum :=
  match name, fault with
  | "protocol", .unsupportedProtocol protocol => some protocol
  | "id", .noBareLoader id | "id", .cyclicRequire id | "id", .loaderFailure id _ _
  | "id", .evaluationFailure id _ _ => some id
  | "args", fault => if keepsArguments fault then some (.tuple fault.arguments) else none
  | _, _ => none

/-- The error that caused a failure. It is linked to the failure when it is first asked for, if it has not
been before. -/
def causeOf (raised : Raised) (cause : Fault) : SessionAction Value := do
  let world ← Session.world
  match world.heap.causes.lookup raised.serial with
  | some cause => return .error cause
  | none => do
    let made ← Session.mark cause
    Session.change fun world => world.link raised.serial made
    return .error made

/-- An attribute of an error. -/
def errorMember (raised : Raised) (name : String) : SessionAction Value :=
  match errorDatum? raised.fault name with
  | some datum => Session.ofDatum datum
  | none =>
    match name, raised.fault.cause? with
    | "cause", some cause => causeOf raised cause
    | _, _ => missing (.error raised) name

/-- An attribute of a value. -/
def member (object : Value) (name : String) : SessionAction Value := do
  let world ← Session.world
  match member? world object name, object with
  | some value, _ => return value
  | none, .error raised => errorMember raised name
  | none, object => missing object name

/-! ## Assigning attributes -/

/-- Whether a value may be the name of the file of a record. -/
def isFilename : Value → Bool
  | .scalar (.text _) | .scalar .null => true
  | _ => false

/-- Sets an attribute of a module record. -/
def setRecordMember (number : Nat) (name : String) (value : Value) : SessionAction Unit :=
  match name with
  | "id" => Session.change fun world => world.assignId number value
  | "exports" => Session.change fun world => world.assignExports number value
  | "loaded" =>
    if value.hasTruth then Session.change fun world => world.assignLoaded number value
    else unsupported "a list of children or a cache as the mark of being loaded"
  | "dirname" => mistake (.noSetter "Module" name)
  | "filename" =>
    if isFilename value then Session.change fun world => world.assignAttribute number name value
    else unsupported "the name of a file that is no text"
  | name =>
    if isInternal name || name = "children" || name = "require" then unsupported ("assignment to " ++ name)
    else Session.change fun world => world.assignAttribute number name value

/-- Sets an attribute of a value. Exports take any attribute. -/
def setMember (object : Value) (name : String) (value : Value) : SessionAction Unit :=
  match object with
  | .exports number =>
    Session.change fun world => { world with heap := world.heap.setAttribute number name value }
  | .record number => setRecordMember number name value
  | .error _ | .require _ | .cache | .context | .state _ | .kind _ =>
    unsupported ("assignment to an attribute of " ++ object.typeName)
  | object =>
    if hasMember object.typeName name then unsupported ("assignment to " ++ name)
    else mistake (.noAttribute object.typeName name)

end ModuleSystem.Script
