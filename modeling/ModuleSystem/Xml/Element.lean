import ModuleSystem.Xml.DocumentType

/-!
# XML elements

A reader of well-formed XML documents. A document is one element with comments and processing
instructions around it; an element has attributes and a content of texts and elements. Namespaces are
not interpreted.
-/

namespace ModuleSystem.Xml

mutual

/-- An element with its attributes and its content, both in order. -/
inductive Element where
  | mk (name : String) (attributes : List (String × String)) (content : List Content)

/-- A piece of the content of an element. -/
inductive Content where
  | text (chars : List Char)
  | element (child : Element)

end

/-- How a start tag ends: its content follows, or the element is empty. -/
inductive TagEnd where
  | opened
  | empty

/-- Reads the attributes of a start tag and its end. -/
def readAttributes (mayBeDeclared : Bool) :
    Nat → List (List Char × List Char) → List Char →
    Except Problem (List (List Char × List Char) × TagEnd × List Char)
  | 0, _, _ => .error .unclosed
  | fuel + 1, attributes, chars => do
    match skipSpace chars with
    | '>' :: rest => return (attributes.reverse, .opened, rest)
    | '/' :: rest =>
      let rest ← expect ">" rest
      return (attributes.reverse, .empty, rest)
    | _ =>
      let rest ← requireSpace chars
      let (name, rest) ← readName rest
      let rest ← expect "=" (skipSpace rest)
      match skipSpace rest with
      | quote :: rest =>
        if quote ≠ '"' ∧ quote ≠ '\'' then throw .unexpected
        let (value, rest) ← readValue mayBeDeclared quote (rest.length + 1) [] rest
        if attributes.any (·.1 = name) then throw .duplicateAttribute
        readAttributes mayBeDeclared fuel ((name, value) :: attributes) rest
      | [] => throw .unclosed

mutual

/-- Reads an element from behind its opening bracket on. The first argument bounds the number of
steps. -/
def readElement : Nat → Rules → List Char → Except Problem (Element × List Char)
  | 0, _, _ => .error .unclosed
  | fuel + 1, rules, chars => do
    let (name, rest) ← readName chars
    let (attributes, tagEnd, rest) ← readAttributes rules.mayDeclareMore (rest.length + 1) [] rest
    let element := Element.mk (String.ofList name) (rules.complete name attributes)
    match tagEnd with
    | .empty => return (element [], rest)
    | .opened =>
      let (content, rest) ← readContent fuel rules [] rest
      let (closing, rest) ← readName rest
      let rest ← expect ">" (skipSpace rest)
      if closing = name then return (element content, rest) else throw .mismatchedTag

/-- Reads the content of an element up to the name in its end tag. `read` holds the pieces so far, the
last one first. -/
def readContent : Nat → Rules → List Content → List Char →
    Except Problem (List Content × List Char)
  | 0, _, _, _ => .error .unclosed
  | fuel + 1, rules, read, chars => do
    match chars with
    | [] => throw .unclosed
    | '<' :: '/' :: rest => return (read.reverse, rest)
    | '<' :: '!' :: '-' :: '-' :: rest =>
      let rest ← skipComment rest
      readContent fuel rules read rest
    | '<' :: '!' :: rest =>
      let rest ← expect "[CDATA[" rest
      let (text, rest) ← readLiteral [] rest
      readContent fuel rules (.text text :: read) rest
    | '<' :: '?' :: rest =>
      let rest ← skipInstruction rest
      readContent fuel rules read rest
    | '<' :: rest =>
      let (child, rest) ← readElement fuel rules rest
      readContent fuel rules (.element child :: read) rest
    | '&' :: rest =>
      let (text, rest) ← readReference rules.mayDeclareMore rest
      readContent fuel rules (.text text :: read) rest
    | _ =>
      let isText (c : Char) : Bool := c ≠ '<' && c ≠ '&'
      let text := chars.takeWhile isText
      if Text.occursIn "]]>".toList text then throw .unexpected
      readContent fuel rules (.text text :: read) (chars.dropWhile isText)

end

/-- Characters of the values in a declaration. -/
def isDeclarationChar (c : Char) : Bool := c.isAlphanum || c = '.' || c = '-' || c = '_'

/-- Reads a name and a value of a declaration, behind blanks. -/
def readSetting (chars : List Char) : Except Problem (List Char × List Char × List Char) := do
  let rest ← requireSpace chars
  let (name, rest) ← readName rest
  let rest ← expect "=" (skipSpace rest)
  let (value, rest) ← readQuoted (skipSpace rest)
  if value.all isDeclarationChar then return (name, value, rest) else throw .invalidDeclaration

/-- Whether the declaration ends in front of a text. -/
def endsDeclaration (chars : List Char) : Bool :=
  (Text.after? "?>".toList (skipSpace chars)).isSome

/-- What the declaration at the front of a document says: whether the document stands alone. -/
def readDeclaration (chars : List Char) : Except Problem (Bool × List Char) := do
  let (name, _, rest) ← readSetting chars
  if name ≠ "version".toList then throw .invalidDeclaration
  if endsDeclaration rest then return (false, (skipSpace rest).drop 2)
  let (name, value, rest) ← readSetting rest
  let (name, value, rest) ←
    if name = "encoding".toList then
      if !((value.head?.map Char.isAlpha).getD false) then throw .invalidDeclaration
      if endsDeclaration rest then return (false, (skipSpace rest).drop 2)
      readSetting rest
    else pure (name, value, rest)
  if name ≠ "standalone".toList then throw .invalidDeclaration
  if value ≠ "yes".toList ∧ value ≠ "no".toList then throw .invalidDeclaration
  if endsDeclaration rest then return (value = "yes".toList, (skipSpace rest).drop 2)
  throw .invalidDeclaration

/-- Reads what stands in front of the element of a document, up to behind its opening bracket. -/
def readProlog (standsAlone : Bool) :
    Nat → Option Rules → List Char → Except Problem (Rules × List Char)
  | 0, _, _ => .error .noElement
  | fuel + 1, rules?, chars => do
    match skipSpace chars with
    | [] => throw .noElement
    | '<' :: '!' :: '-' :: '-' :: rest =>
      let rest ← skipComment rest
      readProlog standsAlone fuel rules? rest
    | '<' :: '?' :: rest =>
      let rest ← skipInstruction rest
      readProlog standsAlone fuel rules? rest
    | '<' :: '!' :: rest =>
      let rest ← expect "DOCTYPE" rest
      if rules?.isSome then throw .unexpected
      let (rules, rest) ← readDocumentType standsAlone rest
      readProlog standsAlone fuel (some rules) rest
    | '<' :: rest => return (rules?.getD (.initial standsAlone), rest)
    | _ => throw .unexpected

/-- Reads what stands behind the element of a document. -/
def readEpilog : Nat → List Char → Except Problem Unit
  | 0, _ => .error .junkAfterElement
  | fuel + 1, chars => do
    match skipSpace chars with
    | [] => return ()
    | '<' :: '!' :: '-' :: '-' :: rest => readEpilog fuel (← skipComment rest)
    | '<' :: '?' :: rest => readEpilog fuel (← skipInstruction rest)
    | _ => throw .junkAfterElement

/-- Whether a document starts with a declaration. -/
def declared? (chars : List Char) : Option (List Char) :=
  match Text.after? "<?xml".toList chars with
  | some rest => if (rest.head?.map isNameChar).getD false then none else some rest
  | none => none

/-- A text without the byte-order mark at its start. -/
def dropMark : List Char → List Char
  | '\uFEFF' :: rest => rest
  | chars => chars

/-- Reads the characters of a document. -/
def readChars (chars : List Char) : Except Problem Element := do
  let (standsAlone, rest) ← match declared? chars with
    | some rest => readDeclaration rest
    | none => pure (false, chars)
  let (rules, rest) ← readProlog standsAlone (rest.length + 1) none rest
  let (element, rest) ← readElement (rest.length + 1) rules rest
  readEpilog (rest.length + 1) rest
  return element

/-- Reads a text as one document. A character that no document may hold ends the text early. -/
def Element.read (text : String) : Except Problem Element :=
  let chars := text.toList
  let result := readChars (Text.unifyNewlines (dropMark (chars.takeWhile isLegal)))
  match result with
  | .error .entitiesDisabled => result
  | _ => if chars.all isLegal then result else .error .invalidCharacter

end ModuleSystem.Xml
