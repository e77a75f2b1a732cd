import ModuleSystem.Text.Blank

/-!
# Identifiers

What a program asks for is written in one of three forms: a local path, which starts with `/`, `./`
or `../`; a scheme and a path, written `scheme://path`; or a bare name, which is everything else. The
first two name a protocol. Protocol and id together make the canonical id, by which a module is known.
-/

namespace ModuleSystem

/-- The form in which an identifier is written. -/
inductive IdentifierKind where
  | path
  | scheme
  | bare
  deriving DecidableEq, Repr

/-- The protocol that an identifier asks for, its id there, and the form in which it was written. -/
structure Identifier where
  protocol : Option String
  id : String
  kind : IdentifierKind
  deriving DecidableEq, Repr

namespace Identifier

/-- Characters that may stand in a segment of a local path. -/
def isSegmentChar (c : Char) : Bool := c ≠ '/' && c ≠ '\\' && c ≠ '\x00'

/-- Whether a text is a sequence of segments, each one ended by a slash or by the end of the text, none
empty unless it is the last. The flag tells that a segment has begun. -/
def areSegments (begun : Bool) : List Char → Bool
  | [] => true
  | c :: rest =>
    if c = '/' then begun && areSegments false rest else isSegmentChar c && areSegments true rest

/-- Whether a text is a local path. -/
def isLocalChars : List Char → Bool
  | '/' :: rest => areSegments false rest
  | '.' :: '/' :: rest => areSegments false rest
  | '.' :: '.' :: '/' :: rest => areSegments false rest
  | _ => false

/-- Characters that may stand in the path of a scheme identifier. -/
def isSchemePathChar (c : Char) : Bool := c.isAlphanum || c = '.' || c = '-'

/-- Whether a text is a sequence of nonempty segments with single slashes between them. The flag tells
that a segment has begun. -/
def isSchemePath (begun : Bool) : List Char → Bool
  | [] => begun
  | c :: rest =>
    if c = '/' then begun && isSchemePath false rest
    else isSchemePathChar c && isSchemePath true rest

/-- What separates a scheme from its path. -/
def separator : List Char := [':', '/', '/']

/-- The scheme and the path of an identifier that is written with a scheme. -/
def schemeSplit? (chars : List Char) : Option (List Char × List Char) :=
  let scheme := chars.takeWhile Char.isAlphanum
  match Text.after? separator (chars.dropWhile Char.isAlphanum) with
  | none => none
  | some path =>
    let body := if path.head? = some '/' then path.tail else path
    if scheme.isEmpty || !isSchemePath false body then none else some (scheme, path)

/-- Whether a text is a local path. -/
def isLocal (raw : String) : Bool := isLocalChars raw.toList

/-- The scheme and the path of an identifier that is written with a scheme. -/
def scheme? (raw : String) : Option (String × String) :=
  (schemeSplit? raw.toList).map fun parts => (String.ofList parts.1, String.ofList parts.2)

/-- The protocol of local paths. -/
def fileProtocol : String := "file"

/-- The text by which a module of a protocol is known. -/
def canonicalId (protocol : Option String) (id : String) : String :=
  match protocol with
  | none => id
  | some name => name ++ "://" ++ id

/-- Reads an identifier. A local path is read again behind the protocol of local paths, and is an id of
that protocol even if no address can hold it. -/
def classify (raw : String) : Identifier :=
  if isLocal raw then
    match scheme? (canonicalId (some fileProtocol) raw) with
    | some (scheme, path) => ⟨some scheme, path, .path⟩
    | none => ⟨some fileProtocol, raw, .path⟩
  else
    match scheme? raw with
    | some (scheme, path) => ⟨some scheme, path, .scheme⟩
    | none => ⟨none, raw, .bare⟩

/-- Behind the protocol of local paths nothing but the whole path is read. -/
theorem scheme?_canonicalId_file (raw : String) :
    scheme? (canonicalId (some fileProtocol) raw) = some (fileProtocol, raw) ∨
      scheme? (canonicalId (some fileProtocol) raw) = none := by
  have chars : (canonicalId (some fileProtocol) raw).toList =
      fileProtocol.toList ++ (separator ++ raw.toList) := by
    simp [canonicalId, fileProtocol, separator]
  have split : schemeSplit? (fileProtocol.toList ++ (separator ++ raw.toList)) =
      if !isSchemePath false (if raw.toList.head? = some '/' then raw.toList.tail else raw.toList)
      then none else some (fileProtocol.toList, raw.toList) := rfl
  rw [scheme?, chars, split]
  cases isSchemePath false _ with
  | true => exact .inl (by simp)
  | false => exact .inr rfl

/-- A local path belongs to its protocol and is its own id, whether or not an address can hold it. -/
theorem classify_eq (raw : String) :
    classify raw =
      if isLocal raw then ⟨some fileProtocol, raw, .path⟩
      else
        match scheme? raw with
        | some (scheme, path) => ⟨some scheme, path, .scheme⟩
        | none => ⟨none, raw, .bare⟩ := by
  unfold classify
  rcases scheme?_canonicalId_file raw with read | unread
  · rw [read]
  · rw [unread]

/-- The canonical id of an identifier. -/
def canonical (identifier : Identifier) : String :=
  canonicalId identifier.protocol identifier.id

/-- The name of the form. -/
def kindName : IdentifierKind → String
  | .path => "path"
  | .scheme => "scheme"
  | .bare => "bare"

end Identifier

end ModuleSystem
