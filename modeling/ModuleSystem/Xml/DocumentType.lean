import ModuleSystem.Xml.Markup

/-!
# XML document types

The declarations in front of the element of a document. They may give attributes default values, and
they must not declare entities. Once they refer to declarations that are kept elsewhere, those behind
the reference have no effect, unless the document says that it stands alone.
-/

namespace ModuleSystem.Xml

/-- What a document type declares about an attribute: whether its value is a text, not a list of
tokens, and its default. -/
structure AttributeRule where
  element : List Char
  name : List Char
  isText : Bool
  value : Option (List Char)

/-- What the front of a document says about the rest: that it stands alone, whether there are
declarations elsewhere, whether declarations have an effect, and the rules for attributes. -/
structure Rules where
  standsAlone : Bool
  refersElsewhere : Bool
  takesEffect : Bool
  attributes : List AttributeRule

/-- The rules of a document without a document type. -/
def Rules.initial (standsAlone : Bool) : Rules := ⟨standsAlone, false, true, []⟩

/-- Whether an entity may be declared elsewhere. -/
def Rules.mayDeclareMore (rules : Rules) : Bool := rules.refersElsewhere && !rules.standsAlone

/-- Single spaces between the tokens of a value. -/
def joinTokens (value : List Char) : List Char :=
  Text.joinWith [' '] ((Text.splitAt ' ' value).filter (!·.isEmpty))

/-- The rules for the attributes of an element, the first one for each name. -/
def Rules.ofElement (rules : Rules) (element : List Char) : List AttributeRule :=
  (rules.attributes.filter (·.element = element)).foldl
    (fun kept rule => if kept.any (·.name = rule.name) then kept else kept ++ [rule]) []

/-- The attributes of an element with those that have a default and are not given. -/
def Rules.complete (rules : Rules) (element : List Char)
    (given : List (List Char × List Char)) : List (String × String) :=
  let known := rules.ofElement element
  let kept := given.map fun (name, value) =>
    if known.any fun rule => rule.name = name && !rule.isText then (name, joinTokens value)
    else (name, value)
  let added := known.filterMap fun rule =>
    if given.any (·.1 = rule.name) then none else rule.value.map fun value => (rule.name, value)
  (kept ++ added).map fun (name, value) => (String.ofList name, String.ofList value)

/-- Characters of a public identifier. -/
def isPublicChar (c : Char) : Bool :=
  c.isAlphanum || " \n-'()+,./:=?;!*#@$_%".toList.contains c

/-- Reads a public identifier. -/
def readPublic (chars : List Char) : Except Problem (List Char) := do
  let rest ← requireSpace chars
  let (text, rest) ← readQuoted rest
  if text.all isPublicChar then return rest else throw .unexpected

/-- Reads the address of an external part. -/
def readAddress (chars : List Char) : Except Problem (List Char) := do
  let rest ← requireSpace chars
  let (_, rest) ← readQuoted rest
  return rest

/-- Reads the identifier of an external part, if there is one. -/
def readExternal? (chars : List Char) : Except Problem (Option (List Char)) := do
  match Text.after? "SYSTEM".toList chars, Text.after? "PUBLIC".toList chars with
  | some rest, _ => return some (← readAddress rest)
  | _, some rest =>
    let rest ← readPublic rest
    return some (← readAddress rest)
  | _, _ => return none

/-! ## Entities and notations -/

/-- Whether a name or a value in quotes may end in front of a text. -/
def endsValue : List Char → Bool
  | [] => true
  | c :: _ => isSpace c || c = '>' || c = '%' || c = '['

/-- Reads the references in the value of an entity. -/
def checkEntityValue : Nat → List Char → Except Problem Unit
  | 0, _ => .error .unclosed
  | _ + 1, [] => .ok ()
  | fuel + 1, c :: rest =>
    if c = '%' then .error .unexpected
    else if c = '&' then do
      let (_, rest) ← readReference true rest
      checkEntityValue fuel rest
    else checkEntityValue fuel rest

/-- Reads the end of a declaration. -/
def readEnd (chars : List Char) : Except Problem (List Char) := expect ">" (skipSpace chars)

/-- Reads the name of a notation behind an external entity, if there is one. -/
def readNotation? (chars : List Char) : Except Problem (List Char) := do
  match Text.after? "NDATA".toList (skipSpace chars) with
  | some rest =>
    let _ ← requireSpace chars
    let rest ← requireSpace rest
    let (_, rest) ← readName rest
    if endsValue rest then return rest else throw .unexpected
  | none => readEnd chars

/-- Reads the declaration of an entity from behind its keyword on. One that has an effect is refused as
soon as it is known what the entity stands for; every document has the predefined ones. -/
def readEntity (rules : Rules) (chars : List Char) : Except Problem (List Char) := do
  let (isParameter, rest) ← match chars with
    | '%' :: rest => do pure (true, ← requireSpace rest)
    | rest => pure (false, rest)
  let (name, rest) ← readName rest
  let rest ← requireSpace rest
  let hasEffect := rules.takesEffect && (isParameter || (predefined.lookup name).isNone)
  match ← readExternal? rest with
  | none =>
    let (value, rest) ← readQuoted rest
    if !endsValue rest then throw .unexpected
    if hasEffect then throw .entitiesDisabled
    if rules.takesEffect then checkEntityValue (value.length + 1) value
    readEnd rest
  | some rest =>
    let isParsed := (Text.after? "NDATA".toList (skipSpace rest)).isNone
    if isParameter && !isParsed then throw .unexpected
    let rest ← readNotation? rest
    if hasEffect then throw .entitiesDisabled
    if isParsed then return rest else readEnd rest

/-- Reads the declaration of a notation from behind its keyword on. -/
def readNotation (chars : List Char) : Except Problem (List Char) := do
  let (_, rest) ← readName chars
  let rest ← requireSpace rest
  match Text.after? "PUBLIC".toList rest with
  | some rest =>
    let rest ← readPublic rest
    match skipSpace rest with
    | '>' :: rest => return rest
    | _ => readEnd (← readAddress rest)
  | none =>
    match ← readExternal? rest with
    | some rest => readEnd rest
    | none => throw .unexpected

/-! ## Content models -/

/-- The text behind a mark of how often a part may occur. -/
def skipOccurrence : List Char → List Char
  | c :: rest => if c = '?' ∨ c = '*' ∨ c = '+' then rest else c :: rest
  | [] => []

/-- Reads a group of a content model from behind its bracket on. All parts of a group are connected by
the same sign. -/
def readGroup : Nat → Option Char → List Char → Except Problem (List Char)
  | 0, _, _ => .error .unclosed
  | fuel + 1, connector, chars => do
    let rest ← match skipSpace chars with
      | '(' :: inner => readGroup fuel none inner
      | part => do
        let (_, rest) ← readName part
        pure rest
    match skipSpace (skipOccurrence rest) with
    | ')' :: rest => return rest
    | c :: rest =>
      if (c = ',' ∨ c = '|') ∧ connector.all (· = c) then readGroup fuel (some c) rest
      else throw .unexpected
    | [] => throw .unclosed

/-- Reads a content of texts and elements from behind its first word on. -/
def readMixed : Nat → List Char → Except Problem (List Char)
  | 0, _ => .error .unclosed
  | fuel + 1, chars => do
    match skipSpace chars with
    | ')' :: '*' :: rest => return rest
    | '|' :: rest =>
      let (_, rest) ← readName (skipSpace rest)
      readMixed fuel rest
    | _ => throw .unexpected

/-- Reads the content that a declaration allows for an element. -/
def readModel (chars : List Char) : Except Problem (List Char) := do
  match chars with
  | '(' :: rest =>
    match Text.after? "#PCDATA".toList (skipSpace rest) with
    | some rest =>
      match skipSpace rest with
      | ')' :: '*' :: rest => return rest
      | ')' :: rest => return rest
      | _ => readMixed (rest.length + 1) rest
    | none => return skipOccurrence (← readGroup (rest.length + 1) none rest)
  | _ =>
    let (name, rest) ← readName chars
    if name = "EMPTY".toList ∨ name = "ANY".toList then return rest else throw .unexpected

/-- Reads the declaration of an element from behind its keyword on. -/
def readElementDeclaration (chars : List Char) : Except Problem (List Char) := do
  let (_, rest) ← readName chars
  let rest ← requireSpace rest
  let rest ← readModel rest
  readEnd rest

/-! ## Attributes -/

/-- The types of attributes that are written as words. -/
def attributeTypes : List (List Char) :=
  ["CDATA", "IDREFS", "IDREF", "ID", "ENTITIES", "ENTITY", "NMTOKENS", "NMTOKEN"].map String.toList

/-- Reads the words of an enumeration up to its closing bracket. Notations have names; other words may
start with any character of a name. -/
def readWords (areNames : Bool) : Nat → List Char → Except Problem (List Char)
  | 0, _ => .error .unclosed
  | fuel + 1, chars => do
    let start := skipSpace chars
    let word := start.takeWhile isNameChar
    let isWord := if areNames then (start.head?.map isNameStart).getD false else !word.isEmpty
    if !isWord then throw .unexpected
    match skipSpace (start.drop word.length) with
    | ')' :: rest => return rest
    | '|' :: rest => readWords areNames fuel rest
    | _ => throw .unexpected

/-- Reads the type of an attribute; tells whether its value is a text. -/
def readAttributeType (chars : List Char) : Except Problem (Bool × List Char) := do
  match chars with
  | '(' :: rest => return (false, ← readWords false (rest.length + 1) rest)
  | _ =>
    let (name, rest) ← readName chars
    if name = "NOTATION".toList then
      let rest ← requireSpace rest
      let rest ← expect "(" rest
      return (false, ← readWords true (rest.length + 1) rest)
    else if attributeTypes.contains name then return (name = "CDATA".toList, rest)
    else throw .unexpected

/-- Reads the default value of an attribute. Without an effect the value does not matter. -/
def readDefaultValue (rules : Rules) (chars : List Char) :
    Except Problem (Option (List Char) × List Char) := do
  let (text, behind) ← readQuoted chars
  if !rules.takesEffect then return (none, behind)
  match chars with
  | quote :: rest =>
    let (value, behind) ← readValue rules.mayDeclareMore quote (text.length + 1) [] rest
    return (some value, behind)
  | [] => throw .unclosed

/-- Reads the default of an attribute. -/
def readDefault (rules : Rules) (chars : List Char) :
    Except Problem (Option (List Char) × List Char) := do
  match Text.after? "#REQUIRED".toList chars, Text.after? "#IMPLIED".toList chars,
    Text.after? "#FIXED".toList chars with
  | some rest, _, _ => return (none, rest)
  | _, some rest, _ => return (none, rest)
  | _, _, some rest => readDefaultValue rules (← requireSpace rest)
  | _, _, _ => readDefaultValue rules chars

/-- Reads the rules for the attributes of an element. -/
def readAttributeRules (rules : Rules) (element : List Char) :
    Nat → List AttributeRule → List Char → Except Problem (List AttributeRule × List Char)
  | 0, _, _ => .error .unclosed
  | fuel + 1, read, chars => do
    match skipSpace chars with
    | '>' :: rest => return (read, rest)
    | _ =>
      let rest ← requireSpace chars
      let (name, rest) ← readName rest
      let rest ← requireSpace rest
      let (isText, rest) ← readAttributeType rest
      let rest ← requireSpace rest
      let (value, rest) ← readDefault rules rest
      let value := if isText then value else value.map joinTokens
      readAttributeRules rules element fuel (read ++ [⟨element, name, isText, value⟩]) rest

/-! ## The document type -/

/-- Reads the declarations inside a document type up to its closing bracket. -/
def readSubset : Nat → Rules → List Char → Except Problem (Rules × List Char)
  | 0, _, _ => .error .unclosed
  | fuel + 1, rules, chars => do
    match skipSpace chars with
    | [] => throw .unclosed
    | ']' :: rest => return (rules, rest)
    | '%' :: rest =>
      let (_, rest) ← readName rest
      let rest ← expect ";" rest
      readSubset fuel { rules with refersElsewhere := true, takesEffect := rules.standsAlone } rest
    | '<' :: '!' :: '-' :: '-' :: rest =>
      let rest ← skipComment rest
      readSubset fuel rules rest
    | '<' :: '?' :: rest =>
      let rest ← skipInstruction rest
      readSubset fuel rules rest
    | '<' :: '!' :: rest =>
      let (keyword, rest) ← readName rest
      let rest ← requireSpace rest
      if keyword = "ENTITY".toList then readSubset fuel rules (← readEntity rules rest)
      else if keyword = "ATTLIST".toList then
        let (element, rest) ← readName rest
        let (read, rest) ← readAttributeRules rules element (rest.length + 1) [] rest
        let attributes := if rules.takesEffect then rules.attributes ++ read else rules.attributes
        readSubset fuel { rules with attributes } rest
      else if keyword = "ELEMENT".toList then readSubset fuel rules (← readElementDeclaration rest)
      else if keyword = "NOTATION".toList then readSubset fuel rules (← readNotation rest)
      else throw .unexpected
    | _ => throw .unexpected

/-- Reads a document type declaration from behind its keyword on. -/
def readDocumentType (standsAlone : Bool) (chars : List Char) :
    Except Problem (Rules × List Char) := do
  let rest ← requireSpace chars
  let (_, rest) ← readName rest
  let external ← readExternal? (skipSpace rest)
  let rules := { Rules.initial standsAlone with refersElsewhere := external.isSome }
  match skipSpace (external.getD rest) with
  | '[' :: rest =>
    let (rules, rest) ← readSubset (rest.length + 1) rules rest
    return (rules, ← readEnd rest)
  | rest => return (rules, ← readEnd rest)

end ModuleSystem.Xml
