import ModuleSystem.Datum.Basic

/-!
# Scripts

The statements and expressions that scripts are made of. They are a part of a wider language: `pass`,
expressions, assignments to one variable or attribute, `raise`, and `try` with its `except` clauses, over
literals, variables, lists, tuples, dictionaries, attributes, items, calls, negation, sums, quotients, `is`
and `in`. A source of the wider language beyond this part is read as malformed. A script that is read, and
comes to an operation of the wider language that is not covered, ends its run there with an error which says
so, and which no handler catches.
-/

namespace ModuleSystem.Script

/-- An expression. -/
inductive Expr where
  | literal (s : Scalar)
  | name (name : String)
  | list (items : List Expr)
  | tuple (items : List Expr)
  | dict (entries : List (Expr × Expr))
  | member (object : Expr) (name : String)
  | item (object key : Expr)
  | call (function : Expr) (arguments : List Expr)
  | negative (e : Expr)
  | sum (left right : Expr)
  | quotient (left right : Expr)
  | identical (left right : Expr)
  | contains (item collection : Expr)
  deriving Inhabited, Repr

/-- Where a value is stored: in a variable, or in an attribute of an object. -/
inductive Target where
  | name (name : String)
  | member (object : Expr) (name : String)
  deriving Repr

mutual

/-- A statement. -/
inductive Stmt where
  | pass
  | evaluate (e : Expr)
  | assign (target : Target) (e : Expr)
  | raise (e : Expr)
  | attempt (body : List Stmt) (handlers : List Handler)

/-- What is done about errors: those of a kind, or all; the error may be given a name. -/
inductive Handler where
  | mk (kind : Option Expr) (name : Option String) (body : List Stmt)

end

end ModuleSystem.Script
