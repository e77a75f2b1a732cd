import ModuleSystem.Script.Basic
import ModuleSystem.Script.Token

/-!
# Reading scripts

Reads the tokens of lines as expressions and statements. A body stands on the lines below its heading
with a deeper indentation of its own, or behind the colon on the same line. A script is read as a
whole before any of it runs. Each reader takes tokens off the front and gives the rest.
-/

namespace ModuleSystem.Script

/-- The texts of neighbouring literals, which make one text. -/
def joinTexts (text : String) : List Token → String × List Token
  | .literal (.text more) :: rest => joinTexts (text ++ more) rest
  | rest => (text, rest)

mutual

/-- Reads an expression. The first argument of each of these readers bounds the number of steps. -/
def readExpr : Nat → List Token → Option (Expr × List Token)
  | 0, _ => none
  | steps + 1, tokens => do
    let (left, rest) ← readSum steps tokens
    match rest with
    | .keyword "is" :: rest => do
      let (right, rest) ← readSum steps rest
      return (.identical left right, rest)
    | .keyword "in" :: rest => do
      let (right, rest) ← readSum steps rest
      return (.contains left right, rest)
    | rest => return (left, rest)

/-- Reads a sum. -/
def readSum : Nat → List Token → Option (Expr × List Token)
  | 0, _ => none
  | steps + 1, tokens => do
    let (first, rest) ← readQuotient steps tokens
    readMoreSum steps first rest

/-- Reads the summands behind a sum. -/
def readMoreSum : Nat → Expr → List Token → Option (Expr × List Token)
  | 0, _, _ => none
  | steps + 1, left, tokens =>
    match tokens with
    | .mark '+' :: rest => do
      let (right, rest) ← readQuotient steps rest
      readMoreSum steps (.sum left right) rest
    | rest => some (left, rest)

/-- Reads a quotient. -/
def readQuotient : Nat → List Token → Option (Expr × List Token)
  | 0, _ => none
  | steps + 1, tokens => do
    let (first, rest) ← readSigned steps tokens
    readMoreQuotient steps first rest

/-- Reads the divisors behind a quotient. -/
def readMoreQuotient : Nat → Expr → List Token → Option (Expr × List Token)
  | 0, _, _ => none
  | steps + 1, left, tokens =>
    match tokens with
    | .mark '/' :: rest => do
      let (right, rest) ← readSigned steps rest
      readMoreQuotient steps (.quotient left right) rest
    | rest => some (left, rest)

/-- Reads an expression that may have a minus in front. -/
def readSigned : Nat → List Token → Option (Expr × List Token)
  | 0, _ => none
  | steps + 1, tokens =>
    match tokens with
    | .mark '-' :: rest => do
      let (e, rest) ← readSigned steps rest
      return (.negative e, rest)
    | tokens => do
      let (e, rest) ← readAtom steps tokens
      readTrail steps e rest

/-- Reads what is applied to an expression: attributes, keys and arguments. -/
def readTrail : Nat → Expr → List Token → Option (Expr × List Token)
  | 0, _, _ => none
  | steps + 1, e, tokens =>
    match tokens with
    | .mark '.' :: .name name :: rest => readTrail steps (.member e name) rest
    | .mark '.' :: _ => none
    | .mark '[' :: rest => do
      let (key, rest) ← readItems steps rest
      match rest with
      | .mark ']' :: rest => readTrail steps (.item e key) rest
      | _ => none
    | .mark '(' :: rest => do
      let (arguments, rest) ← readList steps ')' rest
      readTrail steps (.call e arguments) rest
    | rest => some (e, rest)

/-- Reads an expression without operators outside of brackets. -/
def readAtom : Nat → List Token → Option (Expr × List Token)
  | 0, _ => none
  | steps + 1, tokens =>
    match tokens with
    | .name name :: rest => some (.name name, rest)
    | .literal (.text text) :: rest =>
      let (text, rest) := joinTexts text rest
      some (.literal (.text text), rest)
    | .literal s :: rest => some (.literal s, rest)
    | .mark '(' :: .mark ')' :: rest => some (.tuple [], rest)
    | .mark '(' :: rest => do
      let (e, rest) ← readItems steps rest
      match rest with
      | .mark ')' :: rest => return (e, rest)
      | _ => none
    | .mark '[' :: rest => do
      let (items, rest) ← readList steps ']' rest
      return (.list items, rest)
    | .mark '\x7b' :: rest => do
      let (entries, rest) ← readEntries steps rest
      return (.dict entries, rest)
    | _ => none

/-- Reads expressions with commas between them up to a closing bracket. -/
def readList : Nat → Char → List Token → Option (List Expr × List Token)
  | 0, _, _ => none
  | steps + 1, close, tokens =>
    match tokens with
    | .mark c :: rest => if c = close then some ([], rest) else readFirst steps close tokens
    | tokens => readFirst steps close tokens

/-- Reads at least one expression, and more behind commas, up to a closing bracket. -/
def readFirst : Nat → Char → List Token → Option (List Expr × List Token)
  | 0, _, _ => none
  | steps + 1, close, tokens => do
    let (e, rest) ← readExpr steps tokens
    match rest with
    | .mark ',' :: rest => do
      let (more, rest) ← readList steps close rest
      return (e :: more, rest)
    | .mark c :: rest => if c = close then return ([e], rest) else none
    | _ => none

/-- Reads entries of a mapping up to its closing bracket. -/
def readEntries : Nat → List Token → Option ((List (Expr × Expr)) × List Token)
  | 0, _ => none
  | steps + 1, tokens =>
    match tokens with
    | .mark '\x7d' :: rest => some ([], rest)
    | tokens => do
      let (key, rest) ← readExpr steps tokens
      match rest with
      | .mark ':' :: rest => do
        let (value, rest) ← readExpr steps rest
        match rest with
        | .mark ',' :: rest => do
          let (more, rest) ← readEntries steps rest
          return ((key, value) :: more, rest)
        | .mark '\x7d' :: rest => return ([(key, value)], rest)
        | _ => none
      | _ => none

/-- Reads an expression, or a tuple of expressions without brackets. -/
def readItems : Nat → List Token → Option (Expr × List Token)
  | 0, _ => none
  | steps + 1, tokens => do
    let (e, rest) ← readExpr steps tokens
    match rest with
    | .mark ',' :: rest => do
      let (more, rest) ← readMoreItems steps rest
      return (.tuple (e :: more), rest)
    | rest => return (e, rest)

/-- Reads the items of a tuple behind a comma, if there are any. -/
def readMoreItems : Nat → List Token → Option (List Expr × List Token)
  | 0, _ => none
  | steps + 1, tokens =>
    match readExpr steps tokens with
    | none => some ([], tokens)
    | some (e, .mark ',' :: rest) => do
      let (more, rest) ← readMoreItems steps rest
      return (e :: more, rest)
    | some (e, rest) => some ([e], rest)

end

/-- A bound on the steps that reading some tokens takes. -/
def stepsFor (tokens : List Token) : Nat := 12 * tokens.length + 12

/-- Whether a name may be a variable that is given a value. The names that every script knows cannot be
replaced as a whole. -/
def isVariable (name : String) : Bool := !(["__debug__", "__builtins__"].contains name)

/-- Whether an attribute may be given a value. The type of a value and its attributes as a whole cannot be
replaced. -/
def isAttribute (name : String) : Bool := !(["__debug__", "__class__", "__dict__"].contains name)

/-- The target that an expression stands for on the left of an assignment. -/
def targetOf? : Expr → Option Target
  | .name name => if isVariable name then some (.name name) else none
  | .member object name => if isAttribute name then some (.member object name) else none
  | _ => none

/-- Reads a statement without a body. -/
def readSimple (tokens : List Token) : Option (Stmt × List Token) :=
  match tokens with
  | .keyword "pass" :: rest => some (.pass, rest)
  | .keyword "raise" :: rest => do
    let (e, rest) ← readExpr (stepsFor rest) rest
    return (.raise e, rest)
  | tokens => do
    let (e, rest) ← readItems (stepsFor tokens) tokens
    match rest with
    | .mark '=' :: rest => do
      let target ← targetOf? e
      let (value, rest) ← readItems (stepsFor rest) rest
      return (.assign target value, rest)
    | rest => return (.evaluate e, rest)

/-- Reads the statements of a line, which semicolons separate. The first argument bounds their
number. -/
def readStatements : Nat → List Token → Option (List Stmt)
  | 0, _ => none
  | steps + 1, tokens => do
    let (statement, rest) ← readSimple tokens
    match rest with
    | [] => return [statement]
    | [.mark ';'] => return [statement]
    | .mark ';' :: rest => do
      let more ← readStatements steps rest
      return statement :: more
    | _ => none

/-- Reads the heading of a handler: the kind of errors that it handles, and the name for the error. -/
def readHeading (tokens : List Token) : Option ((Option Expr × Option String) × List Token) :=
  match tokens with
  | .mark ':' :: rest => some ((none, none), rest)
  | tokens => do
    let (kind, rest) ← readExpr (stepsFor tokens) tokens
    match rest with
    | .mark ':' :: rest => return ((some kind, none), rest)
    | .keyword "as" :: .name name :: .mark ':' :: rest =>
      if isVariable name then return ((some kind, some name), rest) else none
    | _ => none

/-- The place of a line. -/
def Line.place (line : Line) : Place := ⟨line.number, line.indent + 1⟩

/-- The place of the first of some lines, or else of a line before them. -/
def placeOf (before : Line) : List Line → Place
  | [] => before.place
  | line :: _ => line.place

mutual

/-- Reads statements on lines of one indentation up to a line with less. The first argument of each
of these readers bounds the number of steps. -/
def readBlock : Nat → Nat → List Line → Except Place (List Stmt × List Line)
  | 0, _, lines => .ok ([], lines)
  | _ + 1, _, [] => .ok ([], [])
  | steps + 1, indent, line :: rest =>
    if line.indent < indent then .ok ([], line :: rest)
    else if line.indent > indent then .error line.place
    else
      match line.tokens with
      | .keyword "try" :: .mark ':' :: tokens => do
        let (body, rest) ← readBody steps line tokens rest
        let (handlers, rest) ← readHandlers steps indent rest
        if handlers.isEmpty then throw (placeOf line rest)
        let (more, rest) ← readBlock steps indent rest
        return (.attempt body handlers :: more, rest)
      | tokens =>
        match readStatements (tokens.length + 1) tokens with
        | some statements => do
          let (more, rest) ← readBlock steps indent rest
          return (statements ++ more, rest)
        | none => .error line.place

/-- Reads a body: what stands behind its heading, or the lines below with a deeper indentation. -/
def readBody : Nat → Line → List Token → List Line → Except Place (List Stmt × List Line)
  | 0, line, _, _ => .error line.place
  | steps + 1, heading, tokens, lines =>
    if tokens.isEmpty then
      match lines with
      | [] => .error heading.place
      | line :: rest =>
        if line.indent > heading.indent then readBlock steps line.indent (line :: rest)
        else .error line.place
    else
      match readStatements (tokens.length + 1) tokens with
      | some statements => .ok (statements, lines)
      | none => .error heading.place

/-- Reads handlers at an indentation. One that handles all errors must be the last. -/
def readHandlers : Nat → Nat → List Line → Except Place (List Handler × List Line)
  | 0, _, lines => .ok ([], lines)
  | _ + 1, _, [] => .ok ([], [])
  | steps + 1, indent, line :: rest =>
    if line.indent ≠ indent then .ok ([], line :: rest)
    else
      match line.tokens with
      | .keyword "except" :: tokens =>
        match readHeading tokens with
        | none => .error line.place
        | some ((kind, name), tokens) => do
          let (body, rest) ← readBody steps line tokens rest
          let (more, rest) ← readHandlers steps indent rest
          if kind.isNone && !more.isEmpty then throw line.place
          return (.mk kind name body :: more, rest)
      | _ => .ok ([], line :: rest)

end

/-- Reads a script as statements. -/
def readScript (source : String) : Except Place (List Stmt) := do
  let lines ← linesOf source
  let (statements, rest) ← readBlock (4 * lines.length + 4) 0 lines
  match rest with
  | [] => return statements
  | line :: _ => throw line.place

/-- Whether a script ends with blanks on a line of their own, which indent nothing. -/
def endsIndented (source : String) : Bool :=
  match (Text.splitAt '\n' (Text.unifyNewlines source.toList)).getLast? with
  | some chars => chars.all isGap && columnBehind 0 chars ≠ 0
  | none => false

/-- Reads a script as one expression on one line, if it is one. Blank lines may surround it, but the
end of the script must not be indented. -/
def readExpression? (source : String) : Option Expr :=
  match linesOf source with
  | .ok [line] =>
    if line.indent ≠ 0 || endsIndented source then none
    else
      match readItems (stepsFor line.tokens) line.tokens with
      | some (e, []) => some e
      | _ => none
  | _ => none

end ModuleSystem.Script
