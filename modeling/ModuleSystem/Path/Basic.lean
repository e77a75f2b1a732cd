import ModuleSystem.Text.Blank

/-!
# Paths

Paths are texts of segments separated by slashes. Normalizing is lexical: empty segments and `.` go,
and `..` takes back the segment before it. One or two leading slashes are kept, more count as one. A
locator is an identifier read as a path relative to a base directory.
-/

namespace ModuleSystem.Path

/-- The segment that stands for the directory itself. -/
def here : List Char := ['.']

/-- The segment that stands for the directory above. -/
def above : List Char := ['.', '.']

/-- How many leading slashes a path keeps: none, one or two. -/
def rootSlashes : List Char → Nat
  | '/' :: '/' :: '/' :: _ => 1
  | '/' :: '/' :: _ => 2
  | '/' :: _ => 1
  | _ => 0

/-- Reads one more segment onto a stack that has the last segment on top. In an absolute path the
root is its own parent. -/
def pushSegment (absolute : Bool) (stack : List (List Char)) (segment : List Char) :
    List (List Char) :=
  if segment = [] ∨ segment = here then stack
  else if segment = above then
    match stack with
    | [] => if absolute then [] else [segment]
    | top :: rest => if top = above then segment :: stack else rest
  else segment :: stack

/-- The segments of a normalized path, the first one first. -/
def normalSegments (chars : List Char) : List (List Char) :=
  ((Text.splitAt '/' chars).foldl (pushSegment (0 < rootSlashes chars)) []).reverse

/-- A path with its leading slashes and segments; the path of nothing is `.`. -/
def ofSegments (slashes : Nat) (segments : List (List Char)) : List Char :=
  let path := List.replicate slashes '/' ++ Text.joinWith ['/'] segments
  if path.isEmpty then here else path

/-- The normal form of a path. -/
def normalizeChars (chars : List Char) : List Char :=
  ofSegments (rootSlashes chars) (normalSegments chars)

/-- Appends a path to a base; an absolute path stands for itself. -/
def joinChars (base path : List Char) : List Char :=
  if path.head? = some '/' then path
  else if base.isEmpty ∨ base.getLast? = some '/' then base ++ path
  else base ++ '/' :: path

/-- The normal form of an identifier read as a path below a base directory. -/
def locateChars (id base : List Char) : List Char :=
  if id.head? = some '/' then normalizeChars id else normalizeChars (joinChars base id)

/-- Everything up to the last slash, without trailing slashes unless there is nothing else. -/
def directoryChars (chars : List Char) : List Char :=
  let head := (chars.reverse.dropWhile (· ≠ '/')).reverse
  if head.all (· = '/') then head else Text.trimRight (· = '/') head

/-- Everything after the last slash. -/
def baseNameChars (chars : List Char) : List Char :=
  (chars.reverse.takeWhile (· ≠ '/')).reverse

/-- The extension of the last segment, from its last dot on. Leading dots of a segment start no
extension. -/
def extensionChars (chars : List Char) : List Char :=
  let name := (baseNameChars chars).dropWhile (· = '.')
  if name.contains '.' then '.' :: (name.reverse.takeWhile (· ≠ '.')).reverse else []

/-- Whether a path starts at the root. -/
def isAbsolute (path : String) : Bool := path.toList.head? = some '/'

/-- The normal form of a path. -/
def normalize (path : String) : String := String.ofList (normalizeChars path.toList)

/-- Appends a path to a base; an absolute path stands for itself. -/
def join (base path : String) : String := String.ofList (joinChars base.toList path.toList)

/-- The absolute normal form of a path, for a working directory. -/
def absolute (workingDirectory path : String) : String := normalize (join workingDirectory path)

/-- The normal form of an identifier read as a path below a base directory. -/
def locate (id base : String) : String := String.ofList (locateChars id.toList base.toList)

/-- The directory part of a path. -/
def directory (path : String) : String := String.ofList (directoryChars path.toList)

/-- The extension of a path, with its dot. -/
def extension (path : String) : String := String.ofList (extensionChars path.toList)

/-- Home directories: the own one, and those of other users by their names. -/
structure Homes where
  own : String
  others : String → Option String

/-- Without a database of users, only the own home directory is known. -/
instance : Coe String Homes := ⟨fun own => ⟨own, fun _ => none⟩⟩

/-- The name behind a leading home mark, which goes on to the first slash. -/
def homeName? (path : String) : Option String :=
  match path.toList with
  | '~' :: rest => some (String.ofList (rest.takeWhile (· ≠ '/')))
  | _ => none

/-- The home directory of a user; without a name, the own one. -/
def Homes.find? (homes : Homes) (name : String) : Option String :=
  if name = "" then some homes.own else homes.others name

/-- Replaces a leading home mark and the name of a user behind it by that user's home directory, without the
slashes at its end. Where nothing is left of both, the root stands. An unknown user keeps the path. -/
def expandHome (homes : Homes) (path : String) : String :=
  match (homeName? path).bind homes.find? with
  | some home =>
    let expanded := Text.trimRight (· = '/') home.toList ++ path.toList.dropWhile (· ≠ '/')
    if expanded.isEmpty then "/" else String.ofList expanded
  | none => path

end ModuleSystem.Path
