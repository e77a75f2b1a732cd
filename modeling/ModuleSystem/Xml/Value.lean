import ModuleSystem.Datum.Basic
import ModuleSystem.Xml.Element

/-!
# Values of XML elements

An element stands for the text in it if it has nothing else, and otherwise for a mapping: attributes
under their names with a sign in front, child elements under their names, and the text under a name of
its own. Children of one name are collected in a list. Blanks around a text do not count, and an empty
text is null.
-/

namespace ModuleSystem.Xml

/-- The key of the text beside attributes and children. -/
def textKey : String := "#text"

/-- The key of an attribute. -/
def attributeKey (name : String) : String := "@" ++ name

/-- Adds a value under a key; a second value makes a list. -/
def addChild (name : String) (value : Datum) (entries : List (Datum × Datum)) :
    List (Datum × Datum) :=
  match Datum.field? name entries with
  | none => Datum.insert (.text name) value entries
  | some (.list items) => Datum.insert (.text name) (.list (items ++ [value])) entries
  | some old => Datum.insert (.text name) (.list [old, value]) entries

/-- All texts of a content in order. -/
def textOf : List Content → List Char
  | [] => []
  | .text chars :: rest => chars ++ textOf rest
  | .element _ :: rest => textOf rest

mutual

/-- The name of an element and the value that it stands for. -/
def Element.entry : Element → String × Datum
  | .mk name attributes content =>
    let own := attributes.foldl
      (fun entries a => Datum.insert (.text (attributeKey a.1)) (.text a.2) entries) []
    let entries := childEntries own content
    let text := Text.strip (String.ofList (textOf content))
    let value : Datum :=
      if entries.isEmpty then if text = "" then .null else .text text
      else if text = "" then .dict entries
      else .dict (addChild textKey (.text text) entries)
    (name, value)

/-- Adds the children of a content to some entries. -/
def childEntries (entries : List (Datum × Datum)) : List Content → List (Datum × Datum)
  | [] => entries
  | .text _ :: rest => childEntries entries rest
  | .element child :: rest =>
    let (name, value) := child.entry
    childEntries (addChild name value entries) rest

end

/-- Reads a text as one document, and gives the mapping of its element's name to its value. -/
def read (text : String) : Except Problem Datum := do
  let element ← Element.read text
  let (name, value) := element.entry
  return .dict [(.text name, value)]

end ModuleSystem.Xml
