import ModuleSystem.Datum.Text
import ModuleSystem.Json
import ModuleSystem.Text.ContentType
import ModuleSystem.Text.LowerCase
import ModuleSystem.Toml
import ModuleSystem.Xml.Value
import ModuleSystem.Yaml.Document

/-!
# Documents

A document is read in the format that is asked for, or in the one that its content type names; with
neither it is its own text. Formats are known by their names, by file extensions and by words in
content types.
-/

namespace ModuleSystem.Document

open Text (lower)

/-- A data format. -/
inductive Format where
  | json
  | yaml
  | toml
  | xml
  deriving DecidableEq, Repr

/-- The name of a format. -/
def Format.name : Format → String
  | .json => "json"
  | .yaml => "yaml"
  | .toml => "toml"
  | .xml => "xml"

/-- The formats in the order in which a content type is searched for them. -/
def Format.all : List Format := [.json, .yaml, .toml, .xml]

/-- The format with a name. -/
def Format.ofName? (name : String) : Option Format := Format.all.find? (·.name = name)

/-- The format of files with an extension. -/
def Format.ofExtension? (extension : String) : Option Format :=
  [(".json", Format.json), (".yaml", .yaml), (".yml", .yaml), (".toml", .toml),
    (".xml", .xml)].lookup (lower extension)

/-- The first format whose name occurs in a content type. -/
def Format.ofContentType? (contentType : String) : Option Format :=
  let words := (lower contentType).toList
  Format.all.find? fun format => Text.occursIn format.name.toList words

/-- Why a document cannot be read. -/
inductive Problem where
  | json (failure : Json.Failure)
  | yaml (problem : Yaml.Problem)
  | toml (problem : Toml.Problem)
  | xml (problem : Xml.Problem)
  | unsupportedFormat (name : String)
  | badLabel
  deriving DecidableEq, Repr

/-- Reads a text in a format. -/
def Format.read (format : Format) (text : String) : Except Problem Datum :=
  match format with
  | .json => (Json.read text).mapError .json
  | .yaml => (Yaml.read text).mapError .yaml
  | .toml => (Toml.read text).mapError .toml
  | .xml => (Xml.read text).mapError .xml

/-- The text of some data: bytes in the character set of their content type, a text as it is, and the
plain form of anything else. -/
def decodeText (contentType : Option String) (data : Datum) : Except Problem String :=
  match data with
  | .scalar (.bytes bytes) =>
    if Text.hasBadLabel contentType then .error .badLabel
    else .ok (Text.decodeBytes contentType bytes)
  | data => .ok data.plain

/-- Reads some data as a document. An empty name of a format counts as none. -/
def read (formatName contentType : Option String) (data : Datum) : Except Problem Datum := do
  let text ← decodeText contentType data
  match formatName.filter (· ≠ "") with
  | some name =>
    match Format.ofName? name with
    | some format => format.read text
    | none => throw (.unsupportedFormat name)
  | none =>
    match contentType.bind Format.ofContentType? with
    | some format => format.read text
    | none => return .text text

end ModuleSystem.Document
