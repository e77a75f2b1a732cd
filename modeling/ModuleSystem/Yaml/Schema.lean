import ModuleSystem.Yaml.Token

/-!
# Tags of plain scalars

A plain scalar without a tag gets one from its form: truth values, null, whole numbers in several
bases, floating-point numbers, dates and moments, the merge key and the default value key. All other
scalars are texts.
-/

namespace ModuleSystem.Yaml

/-- What kind of value a node stands for. -/
inductive Tag where
  | null
  | bool
  | int
  | float
  | binary
  | timestamp
  | orderedMap
  | pairs
  | set
  | text
  | sequence
  | mapping
  | merge
  | defaultValue
  | other (name : String)
  deriving DecidableEq, Repr

/-- The common start of the names of the standard tags. -/
def tagStart : String := "tag:yaml.org,2002:"

/-- The standard tags and the ends of their names. -/
def standardTags : List (String × Tag) :=
  [("null", .null), ("bool", .bool), ("int", .int), ("float", .float), ("binary", .binary),
    ("timestamp", .timestamp), ("omap", .orderedMap), ("pairs", .pairs), ("set", .set),
    ("str", .text), ("seq", .sequence), ("map", .mapping), ("merge", .merge),
    ("value", .defaultValue)]

/-- The tag with a full name. -/
def Tag.ofName (name : String) : Tag :=
  match Text.after? tagStart.toList name.toList with
  | some rest => (standardTags.lookup (String.ofList rest)).getD (.other name)
  | none => .other name

/-- A text without a line feed at its end. -/
def dropFinalBreak (chars : List Char) : List Char :=
  if chars.getLast? = some '\n' then chars.dropLast else chars

/-- The words for truth values in small letters. -/
def truthWords : List (String × Bool) :=
  [("yes", true), ("no", false), ("true", true), ("false", false), ("on", true), ("off", false)]

/-- A word in small letters, with one capital in front, or in capitals. -/
def isCasing (word : List Char) (chars : List Char) : Bool :=
  chars = word || chars = word.map Char.toUpper ||
    (match word with
      | c :: rest => chars = c.toUpper :: rest
      | [] => false)

/-- Whether a scalar has the form of a truth value. -/
def isTruthForm (chars : List Char) : Bool :=
  truthWords.any fun entry => isCasing entry.1.toList chars

/-- Whether a scalar has the form of null. -/
def isNullForm (chars : List Char) : Bool :=
  chars.isEmpty || chars = ['~'] || isCasing "null".toList chars

/-- A text without a sign at its front. -/
def dropSign : List Char → List Char
  | '-' :: rest => rest
  | '+' :: rest => rest
  | chars => chars

/-- Digits and underscores. -/
def isDigitOrLine (c : Char) : Bool := c.isDigit || c = '_'

/-- Whether a text is not empty and made of some characters. -/
def isRun (accept : Char → Bool) (chars : List Char) : Bool := !chars.isEmpty && chars.all accept

/-- Whether a text is a part between colons: at most two digits, below sixty. -/
def isSixtieth (chars : List Char) : Bool :=
  match chars with
  | [a] => a.isDigit
  | [a, b] => '0' ≤ a && a ≤ '5' && b.isDigit
  | _ => false

/-- Whether a text is made of parts in base sixty behind a first one. -/
def isSexagesimal (first : List Char → Bool) (chars : List Char) : Bool :=
  match Text.splitAt ':' chars with
  | head :: part :: parts => first head && (part :: parts).all isSixtieth
  | _ => false

/-- Whether a text is made of digits and underscores and starts with a digit that satisfies a
condition. -/
def startsRun (first : Char → Bool) : List Char → Bool
  | c :: rest => first c && rest.all isDigitOrLine
  | [] => false

/-- Digits other than zero. -/
def isNonzero (c : Char) : Bool := c.isDigit && c ≠ '0'

/-- Whether a scalar has the form of a whole number. -/
def isIntegerForm (chars : List Char) : Bool :=
  match dropSign chars with
  | ['0'] => true
  | '0' :: 'b' :: digits => isRun (fun c => c = '0' || c = '1' || c = '_') digits
  | '0' :: 'x' :: digits => isRun (fun c => (Text.hexValue? c).isSome || c = '_') digits
  | '0' :: digits => isRun (fun c => ('0' ≤ c && c ≤ '7') || c = '_') digits
  | body => startsRun isNonzero body || isSexagesimal (startsRun isNonzero) body

/-- Whether a text is an exponent with a sign, or nothing. -/
def isExponentForm : List Char → Bool
  | [] => true
  | e :: sign :: digits =>
    (e = 'e' || e = 'E') && (sign = '-' || sign = '+') && isRun Char.isDigit digits
  | [_] => false

/-- Whether a scalar has the form of a floating-point number. -/
def isFloatForm (chars : List Char) : Bool :=
  let body := dropSign chars
  let whole := body.takeWhile (· ≠ '.')
  match body.dropWhile (· ≠ '.') with
  | [] => false
  | _ :: rest =>
    let digits := rest.takeWhile isDigitOrLine
    let behind := rest.dropWhile isDigitOrLine
    if whole.isEmpty then
      isCasing "inf".toList rest ||
        (body.length = chars.length &&
          ((startsRun Char.isDigit digits && isExponentForm behind) ||
            rest = "nan".toList || rest = "NaN".toList || rest = "NAN".toList))
    else
      (startsRun Char.isDigit whole && isExponentForm behind) ||
        (isSexagesimal (startsRun Char.isDigit) whole && behind.isEmpty)

/-- The parts of a date or moment as they are written. The zone is its sign, hours and minutes, or
nothing for universal time. -/
structure TimestampParts where
  year : List Char
  month : List Char
  day : List Char
  time : Option (List Char × List Char × List Char)
  fraction : List Char
  zone : Option (Option (Bool × List Char × List Char))
  deriving Repr

/-- Cuts off at least `low` and at most `high` digits. -/
def takeDigits? (low high : Nat) (chars : List Char) : Option (List Char × List Char) :=
  let digits := (chars.take high).takeWhile Char.isDigit
  if low ≤ digits.length then some (digits, chars.drop digits.length) else none

/-- Cuts off a character. -/
def takeChar? (c : Char) (chars : List Char) : Option (List Char) :=
  if chars.head? = some c then some chars.tail else none

/-- Reads the zone at the end of a moment. -/
def readZone? (chars : List Char) : Option (Option (Option (Bool × List Char × List Char))) :=
  match chars with
  | [] => some none
  | _ =>
    match chars.dropWhile fun c => c = ' ' || c = '\t' with
    | ['Z'] => some (some none)
    | sign :: rest =>
      if sign = '-' ∨ sign = '+' then
        match takeDigits? 1 2 rest with
        | some (hours, []) => some (some (some (sign = '-', hours, [])))
        | some (hours, rest) => do
          let rest ← takeChar? ':' rest
          let (minutes, rest) ← takeDigits? 2 2 rest
          if rest.isEmpty then some (some (some (sign = '-', hours, minutes))) else none
        | none => none
      else none
    | [] => none

/-- Moves over what separates a date from a time of day. -/
def afterDate? (chars : List Char) : Option (List Char) :=
  match chars with
  | c :: rest =>
    if c = 'T' ∨ c = 't' then some rest
    else if c = ' ' ∨ c = '\t' then some (rest.dropWhile fun c => c = ' ' || c = '\t')
    else none
  | [] => none

/-- Reads a date or a moment. -/
def readTimestamp? (chars : List Char) : Option TimestampParts := do
  let (year, rest) ← takeDigits? 4 4 (dropFinalBreak chars)
  let rest ← takeChar? '-' rest
  let (month, rest) ← takeDigits? 1 2 rest
  let rest ← takeChar? '-' rest
  let (day, rest) ← takeDigits? 1 2 rest
  if rest.isEmpty then return ⟨year, month, day, none, [], none⟩
  let rest ← afterDate? rest
  let (hour, rest) ← takeDigits? 1 2 rest
  let rest ← takeChar? ':' rest
  let (minute, rest) ← takeDigits? 2 2 rest
  let rest ← takeChar? ':' rest
  let (second, rest) ← takeDigits? 2 2 rest
  let (fraction, rest) := match rest with
    | '.' :: more => (more.takeWhile Char.isDigit, more.dropWhile Char.isDigit)
    | _ => ([], rest)
  let zone ← readZone? rest
  return ⟨year, month, day, some (hour, minute, second), fraction, zone⟩

/-- Whether a scalar has the form of a date or moment. A date alone has two digits for the month and
the day. -/
def isTimestampForm (chars : List Char) : Bool :=
  match readTimestamp? chars with
  | some parts => parts.time.isSome || (parts.month.length = 2 && parts.day.length = 2)
  | none => false

/-- The tag of a plain scalar. -/
def tagOfPlain (text : String) : Tag :=
  let chars := dropFinalBreak text.toList
  if isTruthForm chars then .bool
  else if isFloatForm chars then .float
  else if isIntegerForm chars then .int
  else if chars = ['<', '<'] then .merge
  else if isNullForm chars then .null
  else if isTimestampForm text.toList then .timestamp
  else if chars = ['='] then .defaultValue
  else .text

end ModuleSystem.Yaml
