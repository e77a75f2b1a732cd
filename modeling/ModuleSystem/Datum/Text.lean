import ModuleSystem.Datum.Basic
import ModuleSystem.Decimal.Shortest
import ModuleSystem.Text.Quoted

/-!
# Data as text

Two texts of a value. The source form, `repr`, is how messages quote a value: texts stand in quotes
and containers in brackets. The plain form, `plain`, differs from it only for texts and calendar
values, which stand for themselves.
-/

namespace ModuleSystem

/-- The source form of a scalar. -/
def Scalar.repr : Scalar → String
  | .null => "None"
  | .bool b => if b then "True" else "False"
  | .int n => toString n
  | .float x => Decimal.floatText x
  | .text s => Text.quoted s
  | .bytes b => Text.quotedBytes b
  | .date d => d.repr
  | .time t => t.repr
  | .moment m => m.repr

namespace Datum

mutual

/-- The source form of a value. -/
def repr : Datum → String
  | .scalar s => s.repr
  | .list items => "[" ++ ", ".intercalate (reprItems items) ++ "]"
  | .tuple [item] => "(" ++ repr item ++ ",)"
  | .tuple items => "(" ++ ", ".intercalate (reprItems items) ++ ")"
  | .set items =>
    if items.isEmpty then "set()" else "\x7b" ++ ", ".intercalate (reprItems items) ++ "\x7d"
  | .dict entries => "\x7b" ++ ", ".intercalate (reprEntries entries) ++ "\x7d"
  | .record attributes => "namespace(" ++ ", ".intercalate (reprAttributes attributes) ++ ")"
  | .object _ text => text

/-- The source forms of the items of a sequence. -/
def reprItems : List Datum → List String
  | [] => []
  | item :: rest => repr item :: reprItems rest

/-- The entries of a mapping, key before value. -/
def reprEntries : List (Datum × Datum) → List String
  | [] => []
  | (key, value) :: rest => (repr key ++ ": " ++ repr value) :: reprEntries rest

/-- The attributes of a record, name before value. -/
def reprAttributes : List (String × Datum) → List String
  | [] => []
  | (name, value) :: rest => (name ++ "=" ++ repr value) :: reprAttributes rest

end

/-- The plain form of a value. -/
def plain : Datum → String
  | .scalar (.text s) => s
  | .scalar (.date d) => d.text
  | .scalar (.time t) => t.text
  | .scalar (.moment m) => m.textWith " "
  | value => value.repr

end Datum

end ModuleSystem
