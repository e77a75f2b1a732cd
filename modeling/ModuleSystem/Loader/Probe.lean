import ModuleSystem.FileTree

/-!
# Finding the file of a module

A path may leave out the extension of a file, or name a directory that has an index file. Probing
looks at the path itself first, then at the index files of a directory, and at last at the path with
each extension, in order.
-/

namespace ModuleSystem

/-- What can be asked of a tree of files. -/
structure Probe where
  isFile : String → Bool
  isDirectory : String → Bool

namespace Probe

/-- The name of an index file without its extension. -/
def indexName : String := "index"

/-- The file that a path stands for. -/
def find? (probe : Probe) (extensions : List String) (path : String) : Option String :=
  if probe.isFile path then some path
  else if probe.isDirectory path then
    (extensions.map fun extension => Path.join path (indexName ++ extension)).find? probe.isFile
  else if Path.extension path = "" then
    (extensions.map fun extension => path ++ extension).find? probe.isFile
  else none

/-- The questions answered by a tree of files. -/
def ofTree (tree : FileTree) : Probe := ⟨tree.isFile, tree.isDirectory⟩

/-- A path without slashes at its end, and with one slash. -/
def withSlash (path : String) : List Char :=
  Text.trimRight (· = '/') path.toList ++ ['/']

/-- The questions answered by a table of files. A directory is whatever leads to some file. -/
def ofTable {α : Type} (files : Ordered α) : Probe where
  isFile := files.contains
  isDirectory path :=
    files.keys.any fun name => (Text.after? (withSlash path) name.toList).isSome

theorem isFile_of_find? {probe : Probe} {extensions : List String} {path found : String}
    (hit : probe.find? extensions path = some found) : probe.isFile found = true := by
  unfold find? at hit
  split at hit
  · cases hit
    assumption
  · split at hit
    · exact List.find?_some hit
    · split at hit
      · exact List.find?_some hit
      · exact absurd hit (by simp)

end Probe

end ModuleSystem
