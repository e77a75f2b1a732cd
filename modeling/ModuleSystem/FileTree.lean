import ModuleSystem.Ordered
import ModuleSystem.Path.Basic
import ModuleSystem.Text.Charset.Utf8

/-!
# A tree of files

A tree of directories and regular files without links, kept as a table from absolute paths to nodes.
A path is followed segment by segment, so that every segment but the last one has to be a directory.
-/

namespace ModuleSystem

/-- What a path leads to. -/
inductive FileNode where
  | directory
  | file (content : List UInt8)
  deriving DecidableEq, Repr

/-- Files and directories by their absolute paths, and the directory where relative paths start. -/
structure FileTree where
  nodes : Ordered FileNode
  workingDirectory : String

namespace FileTree

/-- Why a path leads nowhere, or not to what was asked for. -/
inductive Problem where
  | missing
  | notDirectory
  | isDirectory
  | nameTooLong
  deriving DecidableEq, Repr

/-- The tree that holds the root alone. -/
def empty : FileTree := ⟨.empty, "/"⟩

instance : Inhabited FileTree := ⟨empty⟩

/-- The most bytes in a segment of a path. -/
def segmentLimit : Nat := 255

/-- One more than the most bytes in a path. -/
def pathLimit : Nat := 4096

/-- More than the number of texts that are shorter than a path may be. -/
def pathBound : Nat := Nat.pow 0x110001 pathLimit

/-- The absolute path of a stack of segments, the last one on top. -/
def pathOf (stack : List (List Char)) : String :=
  String.ofList ('/' :: Text.joinWith ['/'] stack.reverse)

/-- The node at a stack of segments. The root is a directory. -/
def nodeAt? (tree : FileTree) : List (List Char) → Option FileNode
  | [] => some .directory
  | stack => tree.nodes.get? (pathOf stack)

/-- Whether a segment names the directory in which it stands. -/
def staysHere (segment : List Char) : Bool := segment = [] || segment = Path.here

/-- Follows segments from the node at a stack of segments. -/
def follow (tree : FileTree) (stack : List (List Char)) (node : FileNode) :
    List (List Char) → Except Problem (List (List Char) × FileNode)
  | [] => .ok (stack, node)
  | segment :: rest =>
    match node with
    | .file _ => .error .notDirectory
    | .directory =>
      if staysHere segment then follow tree stack node rest
      else if segment = Path.above then follow tree stack.tail .directory rest
      else if (Text.encodeUtf8 segment).length > segmentLimit then .error .nameTooLong
      else
        match tree.nodeAt? (segment :: stack) with
        | none => .error .missing
        | some next => follow tree (segment :: stack) next rest

/-- The node that a path leads to. -/
def find (tree : FileTree) (path : String) : Except Problem FileNode :=
  if path.isEmpty then .error .missing
  else if (Text.encodeUtf8 path.toList).length ≥ pathLimit then .error .nameTooLong
  else
    let full := Path.joinChars tree.workingDirectory.toList path.toList
    (follow tree [] .directory (Text.splitAt '/' full)).map Prod.snd

/-- Whether a path holds the character that no path can hold. -/
def hasNul (path : String) : Bool := path.toList.contains '\x00'

/-- Whether a path leads to a regular file. -/
def isFile (tree : FileTree) (path : String) : Bool :=
  !hasNul path &&
    match tree.find path with
    | .ok (.file _) => true
    | _ => false

/-- Whether a path leads to a directory. -/
def isDirectory (tree : FileTree) (path : String) : Bool :=
  !hasNul path &&
    match tree.find path with
    | .ok .directory => true
    | _ => false

/-- The content of the file that a path leads to. -/
def read (tree : FileTree) (path : String) : Except Problem (List UInt8) :=
  match tree.find path with
  | .ok (.file content) => .ok content
  | .ok .directory => .error .isDirectory
  | .error problem => .error problem

/-- Makes the directories that the stacks below a path stand for, the outermost first. -/
def makeDirectories (tree : FileTree) : List (List Char) → FileTree
  | [] => tree
  | segment :: outer =>
    let tree := makeDirectories tree outer
    match tree.nodeAt? (segment :: outer) with
    | some _ => tree
    | none => { tree with nodes := tree.nodes.set (pathOf (segment :: outer)) .directory }

/-- The stack of segments of a path below the working directory. -/
def stackOf (tree : FileTree) (path : String) : List (List Char) :=
  (Path.normalSegments (Path.joinChars tree.workingDirectory.toList path.toList)).reverse

/-- Makes a directory and the directories that lead to it. -/
def addDirectory (tree : FileTree) (path : String) : FileTree :=
  tree.makeDirectories (tree.stackOf path)

/-- Writes a file, and makes the directories that lead to it. -/
def write (tree : FileTree) (path : String) (content : List UInt8) : FileTree :=
  let stack := tree.stackOf path
  let tree := tree.makeDirectories stack.tail
  { tree with nodes := tree.nodes.set (pathOf stack) (.file content) }

/-- Removes a file; the directories that led to it stay. -/
def remove (tree : FileTree) (path : String) : FileTree :=
  { tree with nodes := tree.nodes.erase (pathOf (tree.stackOf path)) }

/-- The number of a problem among those of the operating system. -/
def Problem.code : Problem → Nat
  | .missing => 2
  | .notDirectory => 20
  | .isDirectory => 21
  | .nameTooLong => 36

/-- A problem in words. -/
def Problem.message : Problem → String
  | .missing => "No such file or directory"
  | .notDirectory => "Not a directory"
  | .isDirectory => "Is a directory"
  | .nameTooLong => "File name too long"

end FileTree

end ModuleSystem
