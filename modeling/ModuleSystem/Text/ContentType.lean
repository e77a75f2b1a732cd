import ModuleSystem.Text.Charset

/-!
# Content types

What the value of a `Content-Type` header tells about a text: the label of its character set, and the
bytes decoded accordingly. A label that names no text encoding counts as UTF-8.
-/

namespace ModuleSystem.Text

/-- Whether a character is a letter of a word of the header, in either case. The long s counts as an s. -/
def isHeaderLetter (letter c : Char) : Bool :=
  c.toLower = letter || (letter = 's' && c = 'ſ')

/-- What follows a word at the start of a text, in any case. -/
def afterWord? : List Char → List Char → Option (List Char)
  | [], chars => some chars
  | _ :: _, [] => none
  | letter :: word, c :: rest => if isHeaderLetter letter c then afterWord? word rest else none

/-- Whether a character belongs to the value of a parameter. -/
def isLabelChar (c : Char) : Bool := !isBlank c && c ≠ ';'

/-- The value of a `charset` parameter that stands at the start of a text. -/
def labelHere? (chars : List Char) : Option (List Char) :=
  match afterWord? "charset".toList chars with
  | none => none
  | some rest =>
    match rest.dropWhile isBlank with
    | '=' :: rest =>
      let label := (rest.dropWhile isBlank).takeWhile isLabelChar
      if label.isEmpty then none else some label
    | _ => none

/-- The value of the first `charset` parameter of a text. -/
def firstLabel? : List Char → Option (List Char)
  | [] => none
  | c :: rest =>
    match labelHere? (c :: rest) with
    | some label => some label
    | none => firstLabel? rest

/-- The label of the character set that a content type names, without quotes around it. -/
def charsetLabel? (contentType : String) : Option String :=
  (firstLabel? contentType.toList).map fun label =>
    String.ofList (trim (· = '\'') (trim (· = '"') label))

/-- The character set that a content type asks for. -/
def charsetOf (contentType : Option String) : Charset :=
  ((contentType.bind charsetLabel?).bind Charset.ofLabel?).getD .utf8

/-- Whether the label of a content type holds a character that no label may hold. -/
def hasBadLabel (contentType : Option String) : Bool :=
  match contentType.bind charsetLabel? with
  | some label => label.toList.contains '\x00'
  | none => false

/-- Bytes as text, in the character set of their content type. -/
def decodeBytes (contentType : Option String) (bytes : List UInt8) : String :=
  String.ofList ((charsetOf contentType).decode bytes)

end ModuleSystem.Text
