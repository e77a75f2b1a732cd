/-!
# Kinds of errors

Every error has a kind, and every kind but the most general one belongs to a more general kind. An
error interrupts a program, instead of being handled by it, if its kind does not belong to
`Exception`.
-/

namespace ModuleSystem.Fault

/-- The kind that all kinds belong to. -/
def rootKind : String := "BaseException"

/-- The kind that all errors belong to which a program may handle. -/
def ordinaryKind : String := "Exception"

/-- The kind of errors of the system of modules itself. -/
def requireKind : String := "RequireError"

/-- The kind of operations that are not supported. It belongs to no other kind. -/
def unsupportedKind : String := "Unsupported"

/-- Kinds by the more general kind that they belong to directly. -/
def kindFamilies : List (String × List String) :=
  [("BaseException", ["SystemExit", "KeyboardInterrupt", "GeneratorExit", "BaseExceptionGroup",
      "Exception"]),
   ("Exception", ["ArithmeticError", "AssertionError", "AttributeError", "BufferError", "EOFError",
      "ImportError", "LookupError", "MemoryError", "NameError", "OSError", "ReferenceError",
      "RuntimeError", "StopAsyncIteration", "StopIteration", "SyntaxError", "SystemError",
      "TypeError", "ValueError", "Warning", "RequireError", "YAMLError", "ExpatError",
      "ConnectError", "ReadTimeout", "ConnectTimeout", "PoolTimeout"]),
   ("ArithmeticError", ["FloatingPointError", "OverflowError", "ZeroDivisionError"]),
   ("ImportError", ["ModuleNotFoundError"]),
   ("LookupError", ["IndexError", "KeyError"]),
   ("NameError", ["UnboundLocalError"]),
   ("OSError", ["BlockingIOError", "ChildProcessError", "ConnectionError", "FileExistsError",
      "FileNotFoundError", "InterruptedError", "IsADirectoryError", "NotADirectoryError",
      "PermissionError", "ProcessLookupError", "TimeoutError"]),
   ("ConnectionError", ["BrokenPipeError", "ConnectionAbortedError", "ConnectionRefusedError",
      "ConnectionResetError"]),
   ("RuntimeError", ["NotImplementedError", "RecursionError"]),
   ("SyntaxError", ["IndentationError"]),
   ("IndentationError", ["TabError"]),
   ("ValueError", ["UnicodeError", "JSONDecodeError", "TOMLDecodeError"]),
   ("UnicodeError", ["UnicodeDecodeError", "UnicodeEncodeError", "UnicodeTranslateError"]),
   ("Warning", ["BytesWarning", "DeprecationWarning", "EncodingWarning", "FutureWarning",
      "ImportWarning", "PendingDeprecationWarning", "ResourceWarning", "RuntimeWarning",
      "SyntaxWarning", "UnicodeWarning", "UserWarning"]),
   ("RequireError", ["UnsupportedProtocol", "NoBareLoader", "LoaderFailure", "EvaluationFailure",
      "CyclicRequireError"])]

/-- The more general kind that a kind belongs to directly. -/
def generalKind? (kind : String) : Option String :=
  (kindFamilies.find? fun family => family.2.contains kind).map Prod.fst

/-- A kind and the more general kinds above it, at most as many as the first argument says. -/
def kindChain : Nat → String → List String
  | 0, _ => []
  | depth + 1, kind =>
    kind ::
      match generalKind? kind with
      | some general => kindChain depth general
      | none => []

/-- Whether a kind is another kind or belongs to it. -/
def kindIs (kind general : String) : Bool := (kindChain (kindFamilies.length + 1) kind).contains general

/-- Names that stand for another kind. -/
def kindOfName (name : String) : String :=
  if name = "IOError" ∨ name = "EnvironmentError" then "OSError" else name

/-- The kinds of errors that other libraries define. -/
def libraryKinds : List String :=
  ["YAMLError", "ExpatError", "JSONDecodeError", "TOMLDecodeError", "ConnectError", "ReadTimeout",
    "ConnectTimeout", "PoolTimeout"]

/-- Whether a type is a kind of errors. -/
def isErrorKind (name : String) : Bool := kindIs (kindOfName name) rootKind

/-- Whether a name is that of a kind of errors every program knows. -/
def isCommonKind (name : String) : Bool :=
  let kind := kindOfName name
  kindIs kind rootKind && !kindIs kind requireKind && !libraryKinds.contains kind

/-- Whether an error of a common kind can be made from any arguments, of which there are so many. -/
def takesAny (name : String) (count : Nat) : Bool :=
  let kind := kindOfName name
  isCommonKind kind && kind ≠ "BaseExceptionGroup" &&
    !(kindIs kind "UnicodeError" && kind ≠ "UnicodeError") && !(kindIs kind "SyntaxError" && count = 2)

/-- The kinds of system errors that have a number of their own. -/
def kindOfCode (code : Int) : String :=
  match ([(1, "PermissionError"), (2, "FileNotFoundError"), (3, "ProcessLookupError"),
    (4, "InterruptedError"), (10, "ChildProcessError"), (11, "BlockingIOError"),
    (13, "PermissionError"), (17, "FileExistsError"), (20, "NotADirectoryError"),
    (21, "IsADirectoryError"), (32, "BrokenPipeError"), (103, "ConnectionAbortedError"),
    (104, "ConnectionResetError"), (108, "BrokenPipeError"), (110, "TimeoutError"),
    (111, "ConnectionRefusedError"), (114, "BlockingIOError"), (115, "BlockingIOError")] :
      List (Int × String)).lookup code with
  | some kind => kind
  | none => "OSError"

/-- The place where a type is defined, which stands before its name where it is named in full. -/
def kindOrigin? (kind : String) : Option String :=
  if kindIs kind requireKind then some "modreq.modreq_datatypes"
  else [("JSONDecodeError", "json.decoder"), ("TOMLDecodeError", "tomllib"),
    ("YAMLError", "yaml.error"), ("ExpatError", "xml.parsers.expat"), ("ConnectError", "httpx"),
    ("ReadTimeout", "httpx"), ("ConnectTimeout", "httpx"), ("PoolTimeout", "httpx"),
    ("Module", "modreq.modreq_datatypes"), ("Require", "modreq.modreq_runtime"),
    ("ModuleContext", "modreq.modreq_runtime"), ("ModuleCache", "modreq.modreq_cache")].lookup kind

/-- A type by its full name. -/
def qualifiedKind (kind : String) : String :=
  match kindOrigin? kind with
  | some origin => origin ++ "." ++ kind
  | none => kind

end ModuleSystem.Fault
