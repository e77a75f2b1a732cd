import ModuleSystem.Fault.Basic

/-!
# Errors in words

The kind and the message of an error. The message of a failure repeats the message of its cause. Some
kinds have a message of their own form: a key error quotes its key, a system error shows its number. Every
error has a message: an integer is written whatever its length, and a value however deep it is.
-/

namespace ModuleSystem.Fault

/-- The kind of a named error: a system error with a number is of the kind of that number. -/
def namedKind (kind : String) (arguments : List Datum) : String :=
  let kind := kindOfName kind
  match arguments with
  | .scalar (.int code) :: _ :: more =>
    if kind = "OSError" ∧ more.length ≤ 3 then kindOfCode code else kind
  | _ => kind

/-- The kind of an error. -/
def kind : Fault → String
  | .requireError _ => requireKind
  | .unsupportedProtocol _ => "UnsupportedProtocol"
  | .noBareLoader _ => "NoBareLoader"
  | .cyclicRequire _ => "CyclicRequireError"
  | .loaderFailure _ _ _ => "LoaderFailure"
  | .evaluationFailure _ _ _ => "EvaluationFailure"
  | .named kind arguments => namedKind kind arguments
  | .identifierNotText _ => "TypeError"
  | .protocolNotText _ => "ValueError"
  | .document problem => problem.kind
  | .coercion problem => problem.kind
  | .file problem _ => kindOfCode problem.code
  | .nulInPath => "ValueError"
  | .undecodable _ => "UnicodeDecodeError"
  | .noSuchSource _ => "FileNotFoundError"
  | .notOnSearchPath _ _ => "FileNotFoundError"
  | .noRoute => "ConnectError"
  | .badStatus _ _ _ => "RuntimeError"
  | .delayTooLong => "OverflowError"
  | .unknownProtocols _ | .httpSettingsNotMapping | .unsupportedSettingsFile _
  | .settingsNotMapping _ => "ValueError"
  | .settledEntry _ => "AssertionError"
  | .absentKey _ => "KeyError"
  | .sourceNotText => "TypeError"
  | .nulInSource | .unreadableSource _ _ => "SyntaxError"
  | .script problem => problem.kind
  | .nestingTooDeep => "RecursionError"
  | .unsupported _ => unsupportedKind

/-- Whether an error belongs to a kind. -/
def isA (fault : Fault) (general : String) : Bool := kindIs fault.kind general

/-- Whether an error is one of the system of modules itself. -/
def isRequireError (fault : Fault) : Bool := fault.isA requireKind

/-- Whether an error interrupts a program instead of being handled by it. -/
def isInterruption (fault : Fault) : Bool := !fault.isA ordinaryKind

/-- Whether a program may handle an interruption if it names its kind. -/
def isNameable (fault : Fault) : Bool := fault.isA rootKind && !fault.isA ordinaryKind

/-- The error that caused a failure. -/
def cause? : Fault → Option Fault
  | .loaderFailure _ cause _ | .evaluationFailure _ cause _ => some cause
  | _ => none

/-- The text of a list of arguments: nothing, the argument, or all of them in parentheses. -/
def argumentsText : List Datum → String
  | [] => ""
  | [argument] => argument.plain
  | arguments => (Datum.tuple arguments).repr

/-- The message of a system error with a number and a text. -/
def systemText (code text : Datum) (path : Option Datum) : String :=
  let start := "[Errno " ++ code.plain ++ "] " ++ text.plain
  match path with
  | some path => start ++ ": " ++ path.repr
  | none => start

/-- The file that a system error is about: the third argument, unless it is absent or null. -/
def systemFile? : List Datum → Option Datum
  | .scalar .null :: _ => none
  | path :: _ => some path
  | [] => none

/-- The message of a syntax error: its text, and the file and the line if they are known. -/
def syntaxText (arguments : List Datum) : String :=
  match arguments with
  | [message, details] =>
    match details.items with
    | .ok (place :: line :: _) =>
      let name : Option String := match place with
        | .scalar (.text path) => some (String.ofList (Path.baseNameChars path.toList))
        | _ => none
      let line : Option String := match line with
        | .scalar (.int n) => some (toString n)
        | _ => none
      match name, line with
      | some name, some line => message.plain ++ " (" ++ name ++ ", line " ++ line ++ ")"
      | some name, none => message.plain ++ " (" ++ name ++ ")"
      | none, some line => message.plain ++ " (line " ++ line ++ ")"
      | none, none => message.plain
    | _ => message.plain
  | message :: _ => message.plain
  | [] => "None"

/-- The message of a named error. -/
def namedText (kind : String) (arguments : List Datum) : String :=
  if kindIs kind "SyntaxError" then syntaxText arguments
  else if kind = "KeyError" ∧ arguments.length = 1 then
    arguments.foldl (fun _ key => key.repr) ""
  else
    match arguments with
    | code :: text :: more =>
      if kindIs kind "OSError" ∧ more.length ≤ 3 then systemText code text (systemFile? more)
      else argumentsText arguments
    | _ => argumentsText arguments

/-- The text between two marks in an error message. -/
def marked (text : String) : String := "\x60" ++ text ++ "\x60"

/-- The message of an error. -/
def message : Fault → String
  | .requireError arguments => argumentsText arguments
  | .unsupportedProtocol protocol => "unsupported protocol " ++ marked protocol.plain
  | .noBareLoader id => "no loader for bare identifier " ++ marked id.plain
  | .cyclicRequire id => "cyclic require of " ++ marked id.plain ++ " has no partial exports"
  | .loaderFailure id cause _ => "failed to load " ++ marked id.plain ++ ": " ++ message cause
  | .evaluationFailure id cause _ =>
    "error evaluating " ++ marked id.plain ++ ": " ++ cause.kind ++ ": " ++ message cause
  | .named kind arguments => namedText (kindOfName kind) arguments
  | .identifierNotText shown => "require: string expected, got " ++ shown
  | .protocolNotText shown => "protocol must be a non-empty string, not " ++ shown
  | .document problem => problem.message
  | .coercion problem => problem.message
  | .file problem path => systemText (.int problem.code) (.text problem.message) (some (.text path))
  | .nulInPath => "embedded null byte"
  | .undecodable failure => failure.message
  | .noSuchSource id => id
  | .notOnSearchPath id paths =>
    "module " ++ Text.quoted id ++ " not found in " ++ (Datum.list (paths.map .text)).repr
  | .noRoute => "no route"
  | .badStatus status url preview => "HTTP " ++ toString status ++ " for " ++ url ++ ": " ++ preview
  | .delayTooLong => "int too large to convert to float"
  | .unknownProtocols names => "Unknown protocol(s) in config: " ++ ", ".intercalate names
  | .httpSettingsNotMapping => "'http' config must be a mapping"
  | .unsupportedSettingsFile name => "Unsupported config file type: " ++ name
  | .settingsNotMapping path => "Config file " ++ path ++ " must contain a mapping"
  | .settledEntry state => state.label
  | .absentKey key => key.repr
  | .sourceNotText => "compile() arg 1 must be a string, bytes or AST object"
  | .nulInSource => "source code string cannot contain null bytes"
  | .unreadableSource _ _ => "invalid syntax"
  | .script problem => problem.message
  | .nestingTooDeep => "maximum recursion depth exceeded"
  | .unsupported operation => operation

/-- The arguments that a named error keeps: a system error with a number keeps that and its text. -/
def namedArguments (kind : String) (arguments : List Datum) : List Datum :=
  if kindIs kind "OSError" ∧ 2 ≤ arguments.length ∧ arguments.length ≤ 5 then arguments.take 2
  else arguments

/-- The arguments that an error keeps. -/
def arguments : Fault → List Datum
  | .requireError arguments => arguments
  | .named kind arguments => namedArguments (kindOfName kind) arguments
  | .file problem _ => [.int problem.code, .text problem.message]
  | .absentKey key | .script (.missingKey key) => [key]
  | fault => [.text fault.message]

/-- The source form of an error. -/
def repr (fault : Fault) : String :=
  fault.kind ++ "(" ++ ", ".intercalate (fault.arguments.map Datum.repr) ++ ")"

/-- Whether a message is fixed by the cause of the error. The messages of parsers are not. -/
def hasFixedMessage : Fault → Bool
  | .loaderFailure _ cause _ | .evaluationFailure _ cause _ => hasFixedMessage cause
  | fault =>
    let parserKinds := ["YAMLError", "ExpatError", "TOMLDecodeError"]
    !parserKinds.contains fault.kind && !fault.isA "SyntaxError"

/-- Whether the kind of an error is not known exactly: it may belong to a kind below the one that is
given. -/
def isVague : Fault → Bool
  | .unreadableSource _ _ => true
  | fault => fault.kind = "YAMLError"

end ModuleSystem.Fault
