import ModuleSystem.Proofs.FileLoader

/-! # What a search path finds

A bare name stands, below each root of a search path, for the file with the path of that name, for the files
that have an extension more, unless the path is a directory, and for the index files of the directory. A
loader finds one of these files below the first root that has any. A name without such a file is kept, and
loading it tells that it is missing. -/

namespace ModuleSystem

open ModuleSystem.Path (NormalPath IsPlain)

namespace Path

theorem baseNameChars_append (front rest : List Char) :
    baseNameChars (front ++ '/' :: rest) = baseNameChars rest := by
  unfold baseNameChars
  rw [List.reverse_append, List.reverse_cons, List.append_assoc, List.takeWhile_append]
  split
  · rename_i whole
    have all : rest.reverse.takeWhile (· ≠ '/') = rest.reverse :=
      (List.takeWhile_prefix _).eq_of_length whole
    rw [all]
    simp
  · rfl

/-- The extension of a path is that of its last part. -/
theorem extensionChars_append (front rest : List Char) :
    extensionChars (front ++ '/' :: rest) = extensionChars rest := by
  unfold extensionChars
  rw [baseNameChars_append]

/-- A name with plain segments only. -/
def IsPlainName (name : String) : Prop := ∀ segment ∈ name.toList.splitOn '/', IsPlain segment

instance (segment : List Char) : Decidable (IsPlain segment) :=
  decidable_of_iff (segment ≠ [] ∧ segment ≠ here ∧ segment ≠ above ∧ '/' ∉ segment)
    ⟨fun ⟨nonempty, ne_here, ne_above, slashless⟩ => ⟨nonempty, ne_here, ne_above, slashless⟩,
      fun ⟨nonempty, ne_here, ne_above, slashless⟩ => ⟨nonempty, ne_here, ne_above, slashless⟩⟩

instance (name : String) : Decidable (IsPlainName name) := List.decidableBAll _ _

namespace IsPlainName

variable {name : String}

theorem head? (plain : IsPlainName name) : name.toList.head? ≠ some '/' := by
  intro slash
  obtain ⟨rest, chars⟩ := List.head?_eq_some_iff.mp slash
  have empty : ([] : List Char) ∈ name.toList.splitOn '/' := by
    rw [chars, List.splitOn_cons_eq_if_modifyHead]
    simp
  exact (plain [] empty).nonempty rfl

theorem isAbsolute (plain : IsPlainName name) : isAbsolute name = false :=
  decide_eq_false plain.head?

end IsPlainName

/-- A plain name below a normal path is a normal path with the segments of both, and it has the extension of
the name. -/
theorem NormalPath.exists_join (root : NormalPath) {name : String} (plain : IsPlainName name) :
    ∃ path : NormalPath, join root.text name = path.text ∧ extension path.text = extension name := by
  let path : NormalPath := { root with
    segments := root.segments ++ name.toList.splitOn '/'
    plain := fun segment member =>
      (List.mem_append.mp member).elim (root.plain segment) (plain segment) }
  have joined : ['/'].intercalate (name.toList.splitOn '/') = name.toList := List.intercalate_splitOn _
  have filled : root.chars ≠ [] := fun empty => by simpa [empty] using root.head?_chars
  -- a slash stands before the name, at the end of a root or after the last segment
  have split : ∃ front, joinChars root.chars name.toList = front ++ '/' :: name.toList ∧
      path.chars = front ++ '/' :: name.toList := by
    unfold joinChars
    rw [if_neg plain.head?, NormalPath.chars_eq path]
    by_cases bottom : root.segments = []
    · obtain ⟨front, slashes⟩ : ∃ front, List.replicate root.slashes '/' = front ++ ['/'] := by
        rcases root.rooted with one | two
        · exact ⟨[], by rw [one]; rfl⟩
        · exact ⟨['/'], by rw [two]; rfl⟩
      have chars : root.chars = front ++ ['/'] := by rw [root.chars_eq, bottom, slashes]; simp
      refine ⟨front, ?_, ?_⟩
      · rw [if_pos (.inr (by simp [chars])), chars]
        simp
      · simp only [path, bottom, List.nil_append, joined, slashes]
        simp
    · refine ⟨root.chars, if_neg (by simp [root.getLast?_chars bottom, filled]), ?_⟩
      simp only [path]
      rw [Text.intercalate_append _ bottom (List.splitOn_ne_nil _ _), joined, root.chars_eq]
      simp
  obtain ⟨front, same, chars⟩ := split
  refine ⟨path, congrArg String.ofList ?_, congrArg String.ofList ?_⟩
  · rw [NormalPath.toList_text, same, chars]
  · rw [NormalPath.toList_text, chars, extensionChars_append]

end Path

namespace FileTree

/-- A path to a file leads through a directory. -/
theorem isDirectory_of_child {tree : FileTree} {path : NormalPath} {segment : List Char}
    (plain : IsPlain segment) (file : tree.isFile (path.child plain).text = true) :
    tree.isDirectory path.text = true := by
  have absolute := (path.child plain).isAbsolute_text
  obtain ⟨nul, short, _⟩ := follow_of_isFile absolute file
  obtain ⟨_, content, leads⟩ := place?_of_isFile absolute file
  rw [NormalPath.toList_text] at short leads
  have place : (path.child plain).segments.reverse = segment :: path.segments.reverse := by
    simp [NormalPath.child]
  rw [NormalPath.pushAll_chars, place] at leads
  have outer := follow_of_leads leads.tail []
  rw [List.tail_cons, List.reverse_reverse, List.append_nil] at outer
  have shorter : path.chars.Sublist (path.child plain).chars := by
    rw [path.chars_eq, (path.child plain).chars_eq]
    exact (Text.intercalate_sublist (List.sublist_append_left _ _)).append_left _
  refine isDirectory_iff.mpr ⟨?_, ?_⟩
  · have clean : '\x00' ∉ (path.child plain).chars := by simpa [hasNul] using nul
    simpa [hasNul] using fun member => clean (shorter.subset member)
  · rw [find_normal ((length_encodeUtf8_le shorter).trans_lt short), outer]
    rfl

end FileTree

/-! ## The files that a path stands for -/

/-- A file that a path stands for without its extension: the path itself, the path with an extension if it is
no directory, or an index file of the directory. -/
inductive Offers (tree : FileTree) (extensions : List String) (path : String) : String → Prop
  | itself (file : tree.isFile path = true) : Offers tree extensions path path
  | extended {extension : String} (given : extension ∈ extensions)
      (free : tree.isDirectory path = false) (file : tree.isFile (path ++ extension) = true) :
      Offers tree extensions path (path ++ extension)
  | index {extension : String} (given : extension ∈ extensions)
      (file : tree.isFile (Path.join path (Probe.indexName ++ extension)) = true) :
      Offers tree extensions path (Path.join path (Probe.indexName ++ extension))

variable {tree : FileTree} {extensions roots : List String}

namespace Probe

/-- Only what a path stands for is found. -/
theorem offers_of_find? {path found : String}
    (hit : (ofTree tree).find? extensions path = some found) : Offers tree extensions path found := by
  have file : tree.isFile found = true := isFile_of_find? hit
  unfold find? at hit
  split at hit
  · cases hit
    exact .itself file
  · split at hit
    · obtain ⟨extension, given, rfl⟩ := List.mem_map.mp (List.mem_of_find?_eq_some hit)
      exact .index given file
    · rename_i elsewhere
      split at hit
      · obtain ⟨extension, given, rfl⟩ := List.mem_map.mp (List.mem_of_find?_eq_some hit)
        exact .extended given (Bool.eq_false_iff.mpr elsewhere) file
      · cases hit

/-- A normal path without an extension is found if it stands for any file. -/
theorem find?_ne_none (slashless : Slashless extensions) {path : NormalPath}
    (bare : Path.extension path.text = "") {file : String}
    (offers : Offers tree extensions path.text file) :
    (ofTree tree).find? extensions path.text ≠ none := by
  unfold find?
  simp only [isFile_ofTree, bare, if_true]
  split
  · simp
  · rename_i other
    cases offers with
    | itself here => exact absurd here other
    | @extended extension given free there =>
      have free : (ofTree tree).isDirectory path.text = false := free
      simp only [free, Bool.false_eq_true, if_false]
      intro missing
      have refused := List.find?_eq_none.mp missing _ (List.mem_map_of_mem given)
      exact refused there
    | @index extension given there =>
      have child : Path.join path.text (indexName ++ extension) =
          (path.child (slashless.plain_index given)).text := by
        refine congrArg String.ofList ?_
        rw [NormalPath.toList_text, path.joinChars_eq]
      have directory : (ofTree tree).isDirectory path.text = true :=
        FileTree.isDirectory_of_child (slashless.plain_index given) (child ▸ there)
      simp only [directory, if_true]
      intro missing
      have refused := List.find?_eq_none.mp missing _ (List.mem_map_of_mem given)
      exact refused there

end Probe

namespace Loader

/-- The files below a root that a bare name stands for. -/
def OffersBelow (tree : FileTree) (extensions : List String) (root name file : String) : Prop :=
  Offers tree extensions (Path.join (Path.normalize root) name) file

/-- What is looked for below an absolute root is a normal path with the extension of the name. -/
theorem exists_below {root name : String} (rooted : Path.isAbsolute root = true)
    (plain : Path.IsPlainName name) (workingDirectory : String) : ∃ path : NormalPath,
      Path.normalize (Path.join (Path.absolute workingDirectory root) name) = path.text ∧
      Path.join (Path.normalize root) name = path.text ∧
      Path.extension path.text = Path.extension name := by
  obtain ⟨normal, same, _⟩ := Path.exists_normalize rooted
  have kept : Path.join workingDirectory root = root := by
    rw [Path.join, FileTree.joinChars_of_absolute rooted, String.ofList_toList]
  obtain ⟨path, joined, ending⟩ := normal.exists_join plain
  refine ⟨path, ?_, ?_, ending⟩
  · rw [Path.absolute, kept, same, joined, path.normalize_text]
  · rw [same, joined]

variable {name file workingDirectory : String}

theorem offersBelow_of_probe {root : String} (rooted : Path.isAbsolute root = true)
    (plain : Path.IsPlainName name)
    (hit : (Probe.ofTree tree).find? extensions
      (Path.normalize (Path.join (Path.absolute workingDirectory root) name)) = some file) :
    OffersBelow tree extensions root name file := by
  obtain ⟨path, looked, joined, _⟩ := exists_below rooted plain workingDirectory
  unfold OffersBelow
  rw [looked] at hit
  rw [joined]
  exact Probe.offers_of_find? hit

/-- Below an absolute root a bare name is found if it stands for any file there. -/
theorem probe_below_ne_none {root : String} (rooted : Path.isAbsolute root = true)
    (slashless : Slashless extensions) (plain : Path.IsPlainName name) (bare : Path.extension name = "")
    (offers : OffersBelow tree extensions root name file) :
    (Probe.ofTree tree).find? extensions
      (Path.normalize (Path.join (Path.absolute workingDirectory root) name)) ≠ none := by
  obtain ⟨path, looked, joined, ending⟩ := exists_below rooted plain workingDirectory
  unfold OffersBelow at offers
  rw [joined] at offers
  rw [looked]
  exact Probe.find?_ne_none slashless (ending.trans bare) offers

/-- A file that a bare name stands for below the first root that has any. -/
def IsFirstOffer (tree : FileTree) (extensions roots : List String) (name file : String) : Prop :=
  ∃ before root after, roots = before ++ root :: after ∧
    (∀ earlier ∈ before, ∀ other, ¬ OffersBelow tree extensions earlier name other) ∧
    OffersBelow tree extensions root name file

/-- A name that is not absolute has no source on a search path. -/
theorem load_search_relative {id : String} (relative : Path.isAbsolute id = false) (host : Host) :
    ((search roots extensions).load id host).1 = .error (.notOnSearchPath id roots) := by
  simp only [load, relative, Bool.false_eq_true, if_false]
  rfl

/-- The roots are searched in their order, and the search ends below the first one that has a file. -/
theorem isFirstOffer_of_findBelow? (rooted : ∀ root ∈ roots, Path.isAbsolute root = true)
    (slashless : Slashless extensions) (plain : Path.IsPlainName name) (bare : Path.extension name = "")
    (hit : findBelow? (Probe.ofTree tree) extensions name (roots.map (Path.absolute workingDirectory)) =
      some file) : IsFirstOffer tree extensions roots name file := by
  rw [findBelow?_eq_findSome?, List.findSome?_map] at hit
  obtain ⟨before, root, after, split, probed, missed⟩ := List.findSome?_eq_some_iff.mp hit
  refine ⟨before, root, after, split, fun earlier first other offers => ?_, ?_⟩
  · have member : earlier ∈ roots := by simp [split, first]
    have missing := missed earlier first
    rw [Function.comp_apply] at missing
    exact probe_below_ne_none (rooted earlier member) slashless plain bare offers missing
  · have member : root ∈ roots := by simp [split]
    rw [Function.comp_apply] at probed
    exact offersBelow_of_probe (rooted root member) plain probed

theorem not_offersBelow_of_findBelow? (rooted : ∀ root ∈ roots, Path.isAbsolute root = true)
    (slashless : Slashless extensions) (plain : Path.IsPlainName name) (bare : Path.extension name = "")
    (missing : findBelow? (Probe.ofTree tree) extensions name
      (roots.map (Path.absolute workingDirectory)) = none) {root : String} (member : root ∈ roots) :
    ¬ OffersBelow tree extensions root name file := by
  rw [findBelow?_eq_findSome?, List.findSome?_map] at missing
  have refused := List.findSome?_eq_none_iff.mp missing root member
  rw [Function.comp_apply] at refused
  exact fun offers => probe_below_ne_none (rooted root member) slashless plain bare offers refused

/-- A loader on a search path finds what is there. If a bare name stands for some file below any of the roots,
it is resolved to one that it stands for below the first such root. Otherwise it stays as it is, and loading
it fails because there is no such file. -/
theorem search_finds_first_offer (rooted : ∀ root ∈ roots, Path.isAbsolute root = true)
    (slashless : Slashless extensions) (plain : Path.IsPlainName name) (bare : Path.extension name = "")
    (directory : Option String) (host : Host) :
    ((∃ root ∈ roots, ∃ file, OffersBelow host.files extensions root name file) →
      ∃ file, IsFirstOffer host.files extensions roots name file ∧
        ((ofSearchPath workingDirectory roots extensions).resolve name directory host).1 = .value file) ∧
    ((∀ root ∈ roots, ∀ file, ¬ OffersBelow host.files extensions root name file) →
      ((ofSearchPath workingDirectory roots extensions).resolve name directory host).1 = .value name ∧
      ∃ fault, ((ofSearchPath workingDirectory roots extensions).load name host).1 = .error fault ∧
        fault.kind = "FileNotFoundError") := by
  rw [ofSearchPath, resolve_search]
  cases hit : findBelow? (Probe.ofTree host.files) extensions name
      (roots.map (Path.absolute workingDirectory)) with
  | some file =>
    have offer := isFirstOffer_of_findBelow? rooted slashless plain bare hit
    refine ⟨fun _ => ⟨file, offer, rfl⟩, fun missing => ?_⟩
    obtain ⟨before, root, after, split, _, offers⟩ := offer
    exact absurd offers (missing root (by simp [split]) file)
  | none =>
    refine ⟨?_, fun _ => ⟨rfl, .notOnSearchPath name (roots.map (Path.absolute workingDirectory)), ?_,
      rfl⟩⟩
    · rintro ⟨root, member, file, offers⟩
      exact absurd offers (not_offersBelow_of_findBelow? rooted slashless plain bare hit member)
    · exact load_search_relative plain.isAbsolute host

/-- Files where a directory without an index file has the name of one of them. -/
def shelved : FileTree :=
  ⟨.ofList [("/lib", .directory), ("/lib/tool", .directory), ("/lib/tool.py", .file []),
    ("/src", .directory), ("/src/tool", .directory), ("/src/tool/index.py", .file [])], "/"⟩

/-- A host with files and nothing else. -/
def shelving : Host := { Host.empty with files := shelved }

/-- Below the first of two roots the directory hides the file, below the second one there is an index. Below
the first one alone nothing is found. -/
theorem tool_is_found :
    (∃ file, IsFirstOffer shelved [".py"] ["/lib", "/src/"] "tool" file ∧
      ((ofSearchPath "/" ["/lib", "/src/"] [".py"]).resolve "tool" none shelving).1 = .value file) ∧
    ((ofSearchPath "/" ["/lib"] [".py"]).resolve "tool" none shelving).1 = .value "tool" ∧
    ∃ fault, ((ofSearchPath "/" ["/lib"] [".py"]).load "tool" shelving).1 = .error fault ∧
      fault.kind = "FileNotFoundError" := by
  have slashless : Slashless [".py"] := by unfold Slashless; decide
  have index : OffersBelow shelved [".py"] "/src/" "tool" "/src/tool/index.py" :=
    .index (List.mem_singleton.mpr rfl) rfl
  refine ⟨?_, ?_⟩
  · exact (search_finds_first_offer (by decide) slashless (by decide) (by decide) none shelving).1
      ⟨"/src/", by simp, _, index⟩
  · refine (search_finds_first_offer (by decide) slashless (by decide) (by decide) none shelving).2 ?_
    intro root member file offers
    obtain rfl := List.mem_singleton.mp member
    cases offers with
    | itself here => cases here
    | extended given free there => cases free
    | index given there =>
      obtain rfl := List.mem_singleton.mp given
      cases there

/-- The directory hides the file even if no other root has one. And a root that leads through a missing
directory has no files, but its normal form has. -/
theorem directories_hide_files :
    Slashless [".py"] ∧ Path.IsPlainName "tool" ∧ Path.extension "tool" = "" ∧
    (Path.isAbsolute "/lib" = true ∧ shelved.isFile (Path.join "/lib" "tool" ++ ".py") = true ∧
      ((ofSearchPath "/" ["/lib"] [".py"]).resolve "tool" none shelving).1 = .value "tool") ∧
    (Path.isAbsolute "/none/../src" = true ∧
      (∀ file ∈ ["/none/../src/tool", "/none/../src/tool.py", "/none/../src/tool/index.py"],
        shelved.isFile file = false) ∧
      ((ofSearchPath "/" ["/none/../src"] [".py"]).resolve "tool" none shelving).1 =
        .value "/src/tool/index.py") := by
  have slashless : Slashless [".py"] := by unfold Slashless; decide
  refine ⟨slashless, by decide, by decide, ⟨by decide, ?_, ?_⟩, by decide, ?_, ?_⟩
  · rfl
  · rfl
  · decide
  · rfl

end Loader

end ModuleSystem
