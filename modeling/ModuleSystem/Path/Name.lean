import ModuleSystem.Path.Basic

/-!
# File names as lists of parts

A name is a root and a list of parts without empty parts and without `.`. Unlike a normalized path a
name keeps `..`, so that its parent is the name without its last part.
-/

namespace ModuleSystem

/-- A root of at most two slashes, and parts. -/
structure PathName where
  root : List Char
  parts : List (List Char)
  deriving DecidableEq, Repr

namespace PathName

/-- Reads a name. -/
def ofText (text : String) : PathName :=
  { root := List.replicate (Path.rootSlashes text.toList) '/'
    parts := (Text.splitAt '/' text.toList).filter fun part => part ≠ [] ∧ part ≠ Path.here }

/-- The text of a name; the empty name is the directory itself. -/
def text (name : PathName) : String :=
  String.ofList (Path.ofSegments name.root.length name.parts)

/-- The last part. -/
def last (name : PathName) : List Char := name.parts.getLast?.getD []

/-- The name without its last part. -/
def parent (name : PathName) : PathName := { name with parts := name.parts.dropLast }

/-- The last part as a text. -/
def fileName (name : PathName) : String := String.ofList name.last

/-- The part of the last part from its last dot on, unless the dot stands first or last. -/
def suffix (name : PathName) : String :=
  let before := (name.last.reverse.dropWhile (· ≠ '.')).drop 1
  let after := name.last.reverse.takeWhile (· ≠ '.')
  if before.isEmpty ∨ after.isEmpty ∨ after.length = name.last.length then ""
  else String.ofList ('.' :: after.reverse)

/-- The absolute normal form of a name, for a working directory; one leading slash. -/
def resolve (workingDirectory : String) (name : PathName) : String :=
  let path := Path.joinChars workingDirectory.toList name.text.toList
  String.ofList (Path.ofSegments 1 (Path.normalSegments path))

end PathName

end ModuleSystem
