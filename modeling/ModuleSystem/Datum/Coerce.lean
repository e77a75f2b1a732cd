import ModuleSystem.Datum.Text
import ModuleSystem.Decimal.Literal

/-!
# Data taken as something else

Settings may be given loosely: a number as a text, a mapping as a list of pairs, a list as anything
that has items. These readers take a value for what it can be taken for, and name what it cannot be.
-/

namespace ModuleSystem

/-- Why a value cannot be taken for something else. -/
inductive CoercionError where
  | notIterable (typeName : String)
  | unhashable (typeName : String)
  | pairNotSequence (index : Nat)
  | pairLength (index length : Nat)
  | notIntegral (typeName : String)
  | notReal (typeName : String)
  | badInteger (quoted : String)
  | integerTooLong (digits : Nat)
  | badFloat (quoted : String)
  | infiniteInteger
  | undefinedInteger
  | integerTooLarge
  deriving DecidableEq, Repr

namespace Datum

/-- The items of a value that has items: a text has its characters, bytes have numbers, and a mapping
has its keys. -/
def items : Datum → Except CoercionError (List Datum)
  | .list items | .tuple items | .set items => .ok items
  | .dict entries => .ok (entries.map Prod.fst)
  | .scalar (.text s) => .ok (s.toList.map fun c => .text (String.singleton c))
  | .scalar (.bytes b) => .ok (b.map fun n => .int n.toNat)
  | value => .error (.notIterable value.typeName)

/-- Stores the pairs that some items stand for, counting the items from an index. -/
def insertPairs (index : Nat) (entries : List (Datum × Datum)) :
    List Datum → Except CoercionError (List (Datum × Datum))
  | [] => .ok entries
  | item :: rest =>
    match item.items with
    | .error _ => .error (.pairNotSequence index)
    | .ok [key, value] =>
      match key.unhashable? with
      | some name => .error (.unhashable name)
      | none => insertPairs (index + 1) (insert key value entries) rest
    | .ok parts => .error (.pairLength index parts.length)

/-- The entries of a value that is a mapping or has pairs as its items. -/
def toEntries : Datum → Except CoercionError (List (Datum × Datum))
  | .dict entries => .ok entries
  | value => do
    let items ← value.items
    insertPairs 0 [] items

/-- The text that a number is read from, with its quoted form. -/
def numeral? : Datum → Option (String × String)
  | .scalar (.text s) => some (s, Text.quoted s)
  | .scalar (.bytes b) =>
    let text := if b.all (·.toNat < 128) then String.ofList (b.map fun n => Char.ofNat n.toNat)
      else "?"
    some (text, Text.quotedBytes b)
  | _ => none

/-- A value as a whole number: a fraction is cut off. -/
def toInteger (value : Datum) : Except CoercionError Int :=
  match value with
  | .scalar (.bool b) => .ok (if b then 1 else 0)
  | .scalar (.int n) => .ok n
  | .scalar (.float x) =>
    match Decimal.Binary64.ofFloat x with
    | .notANumber => .error .undefinedInteger
    | .infinite _ => .error .infiniteInteger
    | finite => .ok (finite.truncate?.getD 0)
  | _ =>
    match value.numeral? with
    | some (text, quoted) =>
      match Decimal.readInteger text with
      | .ok n => .ok n
      | .error .malformed => .error (.badInteger quoted)
      | .error (.tooLong digits) => .error (.integerTooLong digits)
    | none => .error (.notIntegral value.typeName)

/-- A value as a floating-point number. -/
def toFloat (value : Datum) : Except CoercionError Float :=
  let ofInt (n : Int) : Except CoercionError Float :=
    match Decimal.floatOfInt? n with
    | some x => .ok x
    | none => .error .integerTooLarge
  match value with
  | .scalar (.bool b) => ofInt (if b then 1 else 0)
  | .scalar (.int n) => ofInt n
  | .scalar (.float x) => .ok x
  | _ =>
    match value.numeral? with
    | some (text, quoted) =>
      match Decimal.readFloat? text with
      | some x => .ok x
      | none => .error (.badFloat quoted)
    | none => .error (.notReal value.typeName)

end Datum

/-- The general kind of the error. -/
def CoercionError.kind : CoercionError → String
  | .notIterable _ | .unhashable _ | .pairNotSequence _ | .notIntegral _ | .notReal _ => "TypeError"
  | .pairLength _ _ | .badInteger _ | .integerTooLong _ | .badFloat _ | .undefinedInteger =>
    "ValueError"
  | .infiniteInteger | .integerTooLarge => "OverflowError"

/-- The error in words. -/
def CoercionError.message : CoercionError → String
  | .notIterable name => "'" ++ name ++ "' object is not iterable"
  | .unhashable name => "unhashable type: '" ++ name ++ "'"
  | .pairNotSequence index =>
    "cannot convert dictionary update sequence element #" ++ toString index ++ " to a sequence"
  | .pairLength index length =>
    "dictionary update sequence element #" ++ toString index ++ " has length " ++ toString length ++
      "; 2 is required"
  | .notIntegral name =>
    "int() argument must be a string, a bytes-like object or a real number, not '" ++ name ++ "'"
  | .notReal name => "float() argument must be a string or a real number, not '" ++ name ++ "'"
  | .badInteger quoted => "invalid literal for int() with base 10: " ++ quoted
  | .integerTooLong digits => "Exceeds the limit (" ++ toString Decimal.digitLimit ++
      " digits) for integer string conversion: value has " ++ toString digits ++
      " digits; use sys.set_int_max_str_digits() to increase the limit"
  | .badFloat quoted => "could not convert string to float: " ++ quoted
  | .infiniteInteger => "cannot convert float infinity to integer"
  | .undefinedInteger => "cannot convert float NaN to integer"
  | .integerTooLarge => "int too large to convert to float"

end ModuleSystem
