import ModuleSystem.Datum.Basic
import ModuleSystem.Decimal.Literal
import ModuleSystem.Text.LowerCase
import ModuleSystem.Yaml.Node

/-!
# Values of YAML nodes

A node's tag says which value it stands for. Containers are filled level by level: the scalars of one
level come before those of the next, so of several problems the one that lies least deep is reported,
and of those at one level the first.
-/

namespace ModuleSystem.Yaml

/-- A problem with a value, and the level at which it arises. -/
structure Late where
  level : Nat
  problem : Problem

/-- All values of a list, or the problem at the least level; of problems at one level the first. -/
def collect {α : Type} : List (Except Late α) → Except Late (List α)
  | [] => .ok []
  | .ok value :: rest => (collect rest).map (value :: ·)
  | .error late :: rest =>
    match collect rest with
    | .ok _ => .error late
    | .error other => .error (if other.level < late.level then other else late)

/-- A result at a level. -/
def atLevel {α : Type} (level : Nat) (result : Except Problem α) : Except Late α :=
  result.mapError (⟨level, ·⟩)

/-- The digits of a number without the mark of its base. -/
def dropBaseMark (base : Nat) (chars : List Char) : List Char :=
  match chars with
  | '0' :: mark :: rest =>
    let mark := mark.toLower
    if (base = 16 && mark = 'x') || (base = 8 && mark = 'o') || (base = 2 && mark = 'b') then rest
    else chars
  | _ => chars

/-- The value of digits of a base, if they all are. -/
def baseValue? (base : Nat) (digits : List Char) : Option Nat :=
  if digits.isEmpty then none
  else
    digits.foldlM (fun n c => do
      let d ← Text.hexValue? c
      if d < base then some (base * n + d) else none) 0

/-- Reads a whole number of a base. -/
def readInteger (base : Nat) (text : String) : Except Problem Int :=
  if base = 10 then
    match Decimal.readInteger text with
    | .ok n => .ok n
    | .error .malformed => .error (.badInteger base text)
    | .error (.tooLong digits) => .error (.integerTooLong digits)
  else
    let chars := Text.trim Text.isBlank (Decimal.plainChars text.toList)
    let (negative, body) := Decimal.spanSign chars
    match baseValue? base (dropBaseMark base body) with
    | some n => .ok (if negative then -(n : Int) else n)
    | none => .error (.badInteger base text)

/-- A number without underscores, split into its sign and the rest. -/
def signAndBody (text : String) : Except Problem (Bool × List Char) :=
  match text.toList.filter (· ≠ '_') with
  | [] => .error .emptyNumber
  | '-' :: body => .ok (true, body)
  | '+' :: body => .ok (false, body)
  | body => .ok (false, body)

/-- The size of a whole number in any of its forms. -/
def integerSize (body : List Char) : Except Problem Int :=
  match body with
  | [] => .error .emptyNumber
  | ['0'] => .ok 0
  | '0' :: 'b' :: digits => readInteger 2 (String.ofList digits)
  | '0' :: 'x' :: digits => readInteger 16 (String.ofList digits)
  | '0' :: _ => readInteger 8 (String.ofList body)
  | _ =>
    if body.contains ':' then do
      let parts ← (Text.splitAt ':' body).mapM fun part => readInteger 10 (String.ofList part)
      return parts.foldl (fun n part => 60 * n + part) 0
    else readInteger 10 (String.ofList body)

/-- The value of a whole number. -/
def integerValue (text : String) : Except Problem Datum := do
  let (negative, body) ← signAndBody text
  let size ← integerSize body
  return .int (if negative then -size else size)

/-- Reads a floating-point number. -/
def readFloat (text : String) : Except Problem Float :=
  match Decimal.readFloat? text with
  | some x => .ok x
  | none => .error (.badFloat text)

/-- The sum of parts in base sixty, the last part first. -/
def sexagesimalSum (base : Nat) (sum : Float) : List Float → Float
  | [] => sum
  | part :: parts =>
    let weight := Decimal.Binary64.floatOfRatio false base 1
    sexagesimalSum (60 * base) (sum + part * weight) parts

/-- The value of a floating-point number. -/
def floatValue (text : String) : Except Problem Datum := do
  let (negative, body) ← signAndBody (Text.lower text)
  let sign : Float := if negative then -1 else 1
  let body := String.ofList body
  if body = ".inf" then return .float (sign * Float.ofBits 0x7FF0000000000000)
  if body = ".nan" then return .float (Float.ofBits 0x7FF8000000000000)
  if body.toList.contains ':' then
    let parts ← (Text.splitAt ':' body.toList).mapM fun part => readFloat (String.ofList part)
    return .float (sign * sexagesimalSum 1 0 parts.reverse)
  return .float (sign * (← readFloat body))

/-- The value of a truth word. -/
def truthValue (text : String) : Except Problem Datum :=
  let word := Text.lower text
  match truthWords.lookup word with
  | some b => .ok (.bool b)
  | none => .error (.badTruthValue word)

/-- The value of a digit in base sixty-four. -/
def base64Value? (c : Char) : Option Nat :=
  if 'A' ≤ c ∧ c ≤ 'Z' then some (c.toNat - 'A'.toNat)
  else if 'a' ≤ c ∧ c ≤ 'z' then some (c.toNat - 'a'.toNat + 26)
  else if c.isDigit then some (c.toNat - '0'.toNat + 52)
  else if c = '+' then some 62
  else if c = '/' then some 63
  else none

/-- Decodes base sixty-four. `place` counts the digits of the current group of four, `rest` holds their
bits that are not written yet, and `pads` counts the padding signs in a row. Other signs are skipped. -/
def decodeBase64 (place rest pads : Nat) : List Char → Option (List UInt8)
  | [] => if place = 0 then some [] else none
  | c :: chars =>
    if c = '=' then
      if 2 ≤ place ∧ 4 ≤ place + pads + 1 then some []
      else decodeBase64 place rest (if 2 ≤ place then pads + 1 else pads) chars
    else
      match base64Value? c with
      | none => decodeBase64 place rest pads chars
      | some d =>
        let byte (n : Nat) (bytes : List UInt8) : List UInt8 := UInt8.ofNat n :: bytes
        match place with
        | 0 => decodeBase64 1 d 0 chars
        | 1 => (decodeBase64 2 (d % 16) 0 chars).map (byte (rest * 4 + d / 16))
        | 2 => (decodeBase64 3 (d % 4) 0 chars).map (byte (rest * 16 + d / 4))
        | _ => (decodeBase64 0 0 0 chars).map (byte (rest * 64 + d))

/-- The value of a text in base sixty-four. -/
def binaryValue (text : String) : Except Problem Datum :=
  let chars := text.toList
  match if chars.all (·.toNat < 128) then decodeBase64 0 0 0 chars else none with
  | some bytes => .ok (.bytes bytes)
  | none => .error .invalidBinary

/-- The seconds of a zone. -/
def zoneSeconds (zone : Bool × List Char × List Char) : Int :=
  let (negative, hours, minutes) := zone
  let seconds : Int := 3600 * Decimal.digitsValue hours + 60 * Decimal.digitsValue minutes
  if negative then -seconds else seconds

/-- The microseconds of a fraction: six digits count, the others are cut off. -/
def microseconds (digits : List Char) : Nat :=
  let kept := digits.take 6
  Decimal.digitsValue kept * Decimal.powerOfTen (6 - kept.length)

/-- A calendar value, or the problem with it. -/
def calendarResult {α : Type} (result : Except CalendarError α) : Except Problem α :=
  result.mapError fun error => .badCalendarValue error.message

/-- The value of a date or moment. -/
def timestampValue (text : String) : Except Problem Datum := do
  match readTimestamp? text.toList with
  | none => throw .badTimestamp
  | some parts =>
    let number := Decimal.digitsValue
    let date := Date.check (number parts.year) (number parts.month) (number parts.day)
    match parts.time with
    | none => return .scalar (.date (← calendarResult date))
    | some (hour, minute, second) =>
      let offset ← match parts.zone with
        | none => pure none
        | some none => pure (some 0)
        | some (some zone) => calendarResult ((checkOffset (zoneSeconds zone)).map some)
      let date ← calendarResult date
      let time ← calendarResult
        (Time.check (number hour) (number minute) (number second) (microseconds parts.fraction))
      return .scalar (.moment ⟨date, time, offset⟩)

mutual

/-- The text of a scalar. A mapping stands for the value of its default key. -/
def scalarText : Node → Except Problem String
  | .scalar _ text => .ok text
  | .sequence _ _ => .error .wrongShape
  | .mapping _ entries => defaultText entries

/-- The text of the value of the default key. -/
def defaultText : List (Node × Node) → Except Problem String
  | [] => .error .wrongShape
  | (key, value) :: rest => if key.tag = .defaultValue then scalarText value else defaultText rest

end

/-- Whether nodes with a tag stand for containers, which can be no keys. -/
def Tag.isContainer : Tag → Bool
  | .orderedMap | .pairs | .set | .sequence | .mapping => true
  | _ => false

/-- The value of a node with the tag of a scalar. -/
def scalarValue (tag : Tag) (node : Node) : Except Problem Datum := do
  match tag with
  | .null =>
    let _ ← scalarText node
    return .null
  | .bool => truthValue (← scalarText node)
  | .int => integerValue (← scalarText node)
  | .float => floatValue (← scalarText node)
  | .binary => binaryValue (← scalarText node)
  | .timestamp => timestampValue (← scalarText node)
  | .text => return .text (← scalarText node)
  | _ => throw .unknownTag

/-- The entry of a mapping whose key and value have been made, or the problems with them. -/
structure MadeEntry where
  key : Except Late Datum
  value : Except Late Datum

/-- The mapping of some entries. Of equal keys the first gives the place and the last the value. -/
def mappingOf (entries : List MadeEntry) : Except Late (List (Datum × Datum)) := do
  let made ← collect (entries.flatMap fun entry => [entry.key, entry.value])
  return gather [] made
where
  /-- Pairs keys with the values behind them. -/
  gather (entries : List (Datum × Datum)) : List Datum → List (Datum × Datum)
    | key :: value :: rest => gather (Datum.insert key value entries) rest
    | _ => entries

mutual

/-- The value of a node that is made at a level. -/
def valueOf (level : Nat) : Node → Except Late Datum
  | .scalar tag text =>
    if tag.isContainer then .error ⟨level + 1, .wrongShape⟩
    else atLevel level (scalarValue tag (.scalar tag text))
  | .sequence tag items =>
    match tag with
    | .sequence => (collect (valuesOf (level + 1) items)).map .list
    | .orderedMap | .pairs => (collect (pairsOf (level + 1) items)).map .list
    | .mapping | .set => .error ⟨level + 1, .wrongShape⟩
    | _ => atLevel level (scalarValue tag (.sequence tag items))
  | .mapping tag entries =>
    match tag with
    | .mapping => do
      let made ← entriesOf (level + 1) [] entries
      let all ← mappingOf made
      return .dict all
    | .set => do
      let made ← entriesOf (level + 1) [] entries
      let all ← mappingOf made
      return .set (all.map Prod.fst)
    | .sequence | .orderedMap | .pairs => .error ⟨level + 1, .wrongShape⟩
    | _ => atLevel level (scalarValue tag (.mapping tag entries))

/-- The values of some nodes. -/
def valuesOf (level : Nat) : List Node → List (Except Late Datum)
  | [] => []
  | item :: rest => valueOf level item :: valuesOf level rest

/-- The pairs of some mappings of one entry each. -/
def pairsOf (level : Nat) : List Node → List (Except Late Datum)
  | [] => []
  | .mapping _ [(key, value)] :: rest =>
    (do
      let pair ← collect [valueOf level key, valueOf level value]
      return .tuple pair) :: pairsOf level rest
  | _ :: rest => .error ⟨level, .wrongShape⟩ :: pairsOf level rest

/-- The entries of a mapping, those of the mappings that it merges first. `own` holds the entries of
its own so far, the last one first. -/
def entriesOf (level : Nat) (own : List MadeEntry) :
    List (Node × Node) → Except Late (List MadeEntry)
  | [] => .ok own.reverse
  | (key, value) :: rest => do
    if key.tag = .merge then
      let merged ← match value with
        | .mapping _ entries => entriesOf level [] entries
        | .sequence _ items => mergedEntriesOf level items
        | .scalar _ _ => .error ⟨level, .wrongShape⟩
      let others ← entriesOf level own rest
      return merged ++ others
    else
      let made := if key.tag = .defaultValue then atLevel level ((scalarText key).map .text)
        else if key.tag.isContainer then .error ⟨level, .unhashableKey⟩
        else valueOf level key
      entriesOf level (⟨made, valueOf level value⟩ :: own) rest

/-- The entries of some mappings that are merged at once: those of the last mapping come first. -/
def mergedEntriesOf (level : Nat) : List Node → Except Late (List MadeEntry)
  | [] => .ok []
  | .mapping _ entries :: rest => do
    let made ← entriesOf level [] entries
    let others ← mergedEntriesOf level rest
    return others ++ made
  | _ :: _ => .error ⟨level, .wrongShape⟩

end

/-- Reads a text that holds at most one document. A text without a document is null. -/
def read (text : String) : Except Problem Datum := do
  match ← readSingle? text with
  | none => return .null
  | some node => (valueOf 0 node).mapError Late.problem

end ModuleSystem.Yaml
