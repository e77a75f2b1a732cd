import ModuleSystem.Fault.Text

/-!
# Reports of errors

The text that is shown to a user for an error. The errors of the system of modules name what they are
about; the error of a module's code is shown as an interpreter shows it, with the place where it was
raised left to the heading of a trace.
-/

namespace ModuleSystem.Report

/-- The heading of a trace. -/
def traceHeading : String := "Traceback (most recent call last):\n"

/-- The last line of a trace: the kind of an error in full, and its message unless it is empty. -/
def lastLine (kind message : String) : String :=
  if message = "" then kind ++ "\n" else kind ++ ": " ++ message ++ "\n"

/-- The details that a syntax error was made with: its message, and a place with a text. -/
structure SyntaxDetails where
  message : Datum
  path : Datum
  line : Datum
  column : Datum
  text : Datum

/-- The details of a syntax error that was made from arguments. -/
def SyntaxDetails.ofArguments (arguments : List Datum) : SyntaxDetails :=
  let message := arguments.head?.getD .null
  match arguments with
  | [_, place] =>
    match place.items with
    | .ok (path :: line :: column :: text :: _) => ⟨message, path, line, column, text⟩
    | _ => ⟨message, .null, .null, .null, .null⟩
  | _ => ⟨message, .null, .null, .null, .null⟩

/-- The details of a syntax error. -/
def SyntaxDetails.ofFault (fault : Fault) : SyntaxDetails :=
  match fault with
  | .named _ arguments => .ofArguments arguments
  | .unreadableSource line column =>
    ⟨.text fault.message, .null, .int line, .int column, .null⟩
  | fault => ⟨.text fault.message, .null, .null, .null, .null⟩

/-- The line of a text with a mark below a column. -/
def markedLine (text : String) (column : Datum) : String :=
  let bare := (Text.trimRight (· = '\n') text.toList)
  let shown := bare.dropWhile fun c => c = ' ' || c = '\n' || c = '\x0c'
  let start := "    " ++ String.ofList shown ++ "\n"
  match column with
  | .scalar (.int n) =>
    let position := n - 1 - (bare.length - shown.length : Nat)
    if position < 0 then start
    else
      let gap := (shown.take position.toNat).map fun c => if Text.isBlank c then c else ' '
      start ++ "    " ++ String.ofList gap ++ "^\n"
  | _ => start

/-- A syntax error as an interpreter shows it. -/
def syntaxLines (kind : String) (details : SyntaxDetails) : String :=
  let isAbsent (d : Datum) : Bool := d matches .scalar .null
  let place :=
    if isAbsent details.line then ""
    else
      let path := if details.path.truth then details.path.plain else "<string>"
      "  File \"" ++ path ++ "\", line " ++ details.line.plain ++ "\n"
  let suffix :=
    if isAbsent details.line && !isAbsent details.path then " (" ++ details.path.plain ++ ")" else ""
  let source := match details.text with
    | .scalar (.text text) => markedLine text details.column
    | _ => ""
  let message := if details.message.truth then details.message.plain else "<no detail available>"
  place ++ source ++ kind ++ ": " ++ message ++ suffix ++ "\n"

/-- An error as an interpreter shows it. Only an error that has been raised has a trace. -/
def trace (fault : Fault) (isRaised : Bool) : String :=
  let kind := Fault.qualifiedKind fault.kind
  let body :=
    if fault.isA "SyntaxError" then syntaxLines kind (.ofFault fault)
    else lastLine kind fault.message
  (if isRaised then traceHeading else "") ++ body

/-- The report of an error. -/
def ofFault (fault : Fault) : String :=
  match fault with
  | .unsupportedProtocol protocol => "UnsupportedProtocol: " ++ protocol.plain
  | .noBareLoader id => "NoBareLoader: " ++ id.plain
  | .cyclicRequire id => "CyclicRequireError: " ++ id.plain
  | .loaderFailure id cause _ =>
    "LoaderFailure: " ++ id.plain ++ "\n" ++ cause.kind ++ ": " ++ cause.message
  | .evaluationFailure id cause chained =>
    "EvaluationFailure: " ++ id.plain ++ "\n" ++ Text.stripEnd (trace cause chained)
  | fault =>
    if fault.isA "SyntaxError" then
      let details := SyntaxDetails.ofFault fault
      "SyntaxError: " ++ details.message.plain ++ " (line " ++ details.line.plain ++ ", col " ++
        details.column.plain ++ ")"
    else fault.kind ++ ": " ++ fault.message

/-- The report of a result by its status and the text of its error. Only a result with the status of
an error has one. -/
def ofStatus (status message : Datum) : String :=
  match status with
  | .scalar (.text "error") => if message.truth then message.plain else "Unknown error"
  | _ => ""

end ModuleSystem.Report
