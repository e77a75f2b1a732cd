import ModuleSystem.Proofs.Path
import ModuleSystem.Settings

/-! # Settings that are read back

Whatever settings are read from, they come out in a normal form: absolute normal paths, extensions with a
dot, known protocols, and the settings of requests with all defaults in front. A normal form is read back
from its own mapping as it is, wherever that mapping is taken to stand. -/

namespace ModuleSystem

open ModuleSystem.Path (NormalPath)

/-! ## Mappings -/

namespace Datum

variable {key value : Datum} {entries base more : List (Datum × Datum)}

/-- Of two keys the later one is never the same as the earlier one. -/
def Distinct (entries : List (Datum × Datum)) : Prop :=
  (entries.map Prod.fst).Pairwise fun earlier later => earlier.same later = false

instance (entries : List (Datum × Datum)) : Decidable (Distinct entries) :=
  inferInstanceAs (Decidable (List.Pairwise _ _))

/-- A key is stored where the same key stands already, or else at the end. -/
theorem keys_insert (key value : Datum) (entries : List (Datum × Datum)) :
    (insert key value entries).map Prod.fst = entries.map Prod.fst ∨
      (insert key value entries).map Prod.fst = entries.map Prod.fst ++ [key] ∧
        ∀ known ∈ entries.map Prod.fst, known.same key = false := by
  induction entries with
  | nil => exact .inr ⟨rfl, by simp⟩
  | cons head rest ih =>
    obtain ⟨known, old⟩ := head
    cases meets : known.same key with
    | true => exact .inl (by simp [insert, meets])
    | false =>
      simp only [insert, meets, Bool.false_eq_true, if_false, List.map_cons]
      rcases ih with kept | ⟨added, fresh⟩
      · exact .inl (by rw [kept])
      · refine .inr ⟨by rw [added, List.cons_append], ?_⟩
        exact List.forall_mem_cons.mpr ⟨meets, fresh⟩

theorem insert_of_fresh (value : Datum) (fresh : ∀ known ∈ entries.map Prod.fst, known.same key = false) :
    insert key value entries = entries ++ [(key, value)] := by
  induction entries with
  | nil => rfl
  | cons head rest ih =>
    obtain ⟨known, old⟩ := head
    obtain ⟨other, others⟩ := List.forall_mem_cons.mp fresh
    simp only [insert, other, Bool.false_eq_true, if_false, ih others, List.cons_append]

theorem insert_of_same {front back : List (Datum × Datum)} {known old : Datum} (value : Datum)
    (fresh : ∀ known ∈ front.map Prod.fst, known.same key = false) (meets : known.same key = true) :
    insert key value (front ++ (known, old) :: back) = front ++ (known, value) :: back := by
  induction front with
  | nil => simp [insert, meets]
  | cons head rest ih =>
    obtain ⟨first, kept⟩ := head
    obtain ⟨other, others⟩ := List.forall_mem_cons.mp fresh
    simp only [List.cons_append, insert, other, Bool.false_eq_true, if_false, ih others]

theorem Distinct.insert (distinct : Distinct entries) (key value : Datum) :
    Distinct (insert key value entries) := by
  unfold Distinct at distinct ⊢
  rcases keys_insert key value entries with kept | ⟨added, fresh⟩
  · rwa [kept]
  · rw [added, List.pairwise_append]
    refine ⟨distinct, by simp, fun known member other last => ?_⟩
    rw [List.mem_singleton.mp last]
    exact fresh known member

/-- Mappings that begin with the keys of a base, in their order, and have no key twice. -/
structure Completes (base entries : List (Datum × Datum)) : Prop where
  keys : base.map Prod.fst <+: entries.map Prod.fst
  distinct : Distinct entries

/-- Whatever is stored over a base completes it. -/
theorem Completes.insertAll (completes : Completes base entries) (more : List (Datum × Datum)) :
    Completes base (insertAll entries more) := by
  induction more generalizing entries with
  | nil => exact completes
  | cons head rest ih =>
    refine ih ⟨?_, completes.distinct.insert head.1 head.2⟩
    rcases keys_insert head.1 head.2 entries with kept | ⟨added, _⟩
    · rw [kept]
      exact completes.keys
    · rw [added]
      exact completes.keys.trans (List.prefix_append _ _)

/-- Entries are stored in place as long as they have the keys that stand there, and then one after the
other. -/
theorem insertAll_append {front : List (Datum × Datum)} (distinct : Distinct (front ++ entries))
    (keys : base.map Prod.fst <+: entries.map Prod.fst)
    (known : ∀ key ∈ base.map Prod.fst, key.same key = true) :
    insertAll (front ++ base) entries = front ++ entries := by
  induction entries generalizing front base with
  | nil =>
    have none : base = [] := by simpa using keys
    rw [none]
    rfl
  | cons head rest ih =>
    obtain ⟨key, value⟩ := head
    have fresh : ∀ other ∈ front.map Prod.fst, other.same key = false := by
      unfold Distinct at distinct
      rw [List.map_append, List.pairwise_append] at distinct
      exact fun other member => distinct.2.2 other member key (by simp)
    have later : Distinct ((front ++ [(key, value)]) ++ rest) := by simpa using distinct
    change insertAll (insert key value (front ++ base)) rest = _
    cases base with
    | nil =>
      have stored : insertAll ((front ++ [(key, value)]) ++ []) rest = front ++ [(key, value)] ++ rest :=
        ih later List.nil_prefix (by simp)
      rw [List.append_nil] at stored ⊢
      rw [insert_of_fresh value fresh, stored, List.append_assoc, List.singleton_append]
    | cons first others =>
      obtain ⟨same, old⟩ := first
      rw [List.map_cons, List.map_cons, List.cons_prefix_cons] at keys
      obtain ⟨rfl, onward⟩ := keys
      obtain ⟨itself, all⟩ := List.forall_mem_cons.mp known
      have stored := ih later onward all
      rw [List.append_assoc, List.append_assoc, List.singleton_append, List.singleton_append] at stored
      rw [insert_of_same value fresh itself, stored]

/-- What completes a base is stored over the base as it is. -/
theorem Completes.insertAll_eq (completes : Completes base entries)
    (known : ∀ key ∈ base.map Prod.fst, key.same key = true) : Datum.insertAll base entries = entries := by
  have stored : Datum.insertAll ([] ++ base) entries = [] ++ entries :=
    insertAll_append completes.distinct completes.keys known
  exact stored

/-- The keys of a base have values in whatever completes it. -/
theorem Completes.exists_field (completes : Completes base entries) {name : String}
    (member : text name ∈ base.map Prod.fst) : ∃ found, field? name entries = some found := by
  have inside : text name ∈ entries.map Prod.fst := completes.keys.subset member
  clear completes
  induction entries with
  | nil => cases inside
  | cons head rest ih =>
    obtain ⟨key, value⟩ := head
    cases meets : key.same (text name) with
    | true => exact ⟨value, by simp [field?, lookup?, meets]⟩
    | false =>
      have itself : (text name).same (text name) = true := by simp [same, Scalar.same]
      have other : text name ≠ key := by
        rintro rfl
        rw [itself] at meets
        cases meets
      obtain ⟨found, there⟩ := ih ((List.mem_cons.mp inside).resolve_left other)
      exact ⟨found, by simpa [field?, lookup?, meets] using there⟩

end Datum

/-! ## Paths -/

namespace Path

/-- A path that is absolute and its own normal form. -/
structure IsNormal (path : String) : Prop where
  absolute : isAbsolute path = true
  normal : normalize path = path

variable {base path : String}

theorem NormalPath.isNormal_text (path : NormalPath) : IsNormal path.text :=
  ⟨path.isAbsolute_text, path.normalize_text⟩

theorem isNormal_absolute (rooted : isAbsolute base = true) (path : String) :
    IsNormal (absolute base path) := by
  obtain ⟨normal, same, _⟩ := exists_normalize (isAbsolute_join rooted path)
  rw [absolute, same]
  exact normal.isNormal_text

namespace IsNormal

/-- A normal path is the same seen from anywhere. -/
theorem absolute_eq (normal : IsNormal path) (base : String) : Path.absolute base path = path := by
  have slash : path.toList.head? = some '/' := of_decide_eq_true normal.absolute
  rw [Path.absolute, join, joinChars, if_pos slash, String.ofList_toList, normal.normal]

/-- A normal path has no home mark. -/
theorem homeName?_eq (normal : IsNormal path) : homeName? path = none := by
  have slash : path.toList.head? = some '/' := of_decide_eq_true normal.absolute
  unfold homeName?
  split
  · rename_i rest chars
    rw [chars] at slash
    cases slash
  · rfl

theorem expandHome_eq (normal : IsNormal path) (homes : Homes) : expandHome homes path = path := by
  unfold expandHome
  rw [normal.homeName?_eq]
  rfl

end IsNormal

end Path

/-! ## Settings -/

namespace Settings

variable {workingDirectory : String} {roots : PathRoots} {settings : Settings} {value : Datum}

theorem exists_of_bind {ε α β : Type} {x : Except ε α} {f : α → Except ε β} {b : β} (ran : x >>= f = .ok b) :
    ∃ a, x = .ok a ∧ f a = .ok b := by
  cases x with
  | error e => cases ran
  | ok a => exact ⟨a, rfl, ran⟩

theorem isNormal_locate (rooted : Path.isAbsolute roots.directory = true) {path : Datum} {located : String}
    (found : PathRoots.locate roots path = .ok located) : Path.IsNormal located := by
  unfold PathRoots.locate at found
  split at found
  · cases found
  · rw [← Except.ok.inj found]
    exact Path.isNormal_absolute rooted _

theorem isNormal_locateAll (rooted : Path.isAbsolute roots.directory = true) {paths : List Datum}
    {located : List String} (found : PathRoots.locateAll roots paths = .ok located) :
    ∀ path ∈ located, Path.IsNormal path := by
  induction paths generalizing located with
  | nil =>
    cases found
    simp
  | cons path rest ih =>
    obtain ⟨first, here, found⟩ := exists_of_bind found
    obtain ⟨others, later, found⟩ := exists_of_bind found
    cases found
    exact List.forall_mem_cons.mpr ⟨isNormal_locate rooted here, ih later⟩

/-- A normal path is located where it is. -/
theorem locate_of_isNormal {path : String} (normal : Path.IsNormal path) (roots : PathRoots) :
    PathRoots.locate roots (.text path) = .ok path := by
  rw [PathRoots.locate, Datum.plain, normal.homeName?_eq, normal.expandHome_eq, normal.absolute_eq]
  rfl

theorem locateAll_of_isNormal {paths : List String} (normal : ∀ path ∈ paths, Path.IsNormal path)
    (roots : PathRoots) : PathRoots.locateAll roots (paths.map .text) = .ok paths := by
  induction paths with
  | nil => rfl
  | cons path rest ih =>
    obtain ⟨first, others⟩ := List.forall_mem_cons.mp normal
    rw [List.map_cons, PathRoots.locateAll, locate_of_isNormal first, ih others]
    rfl

theorem head?_dotted (extension : String) : (dotted extension).toList.head? = some '.' := by
  unfold dotted
  split
  · assumption
  · rw [String.toList_append]
    rfl

theorem dotted_of_dot {extension : String} (dot : extension.toList.head? = some '.') :
    dotted extension = extension := if_pos dot

/-- Settings as they are read: the paths are absolute and normal, extensions begin with a dot, protocols are
known, and the settings of requests have the keys of the defaults in front and no key twice. -/
structure IsNormal (settings : Settings) : Prop where
  baseDirectory : Path.IsNormal settings.baseDirectory
  extensions : ∀ extension ∈ settings.extensions, extension.toList.head? = some '.'
  modulePaths : ∀ path ∈ settings.modulePaths, Path.IsNormal path
  protocols : ∀ protocol ∈ settings.protocols, protocol ∈ knownProtocols
  http : Datum.Completes Http.defaultEntries settings.http

theorem completes_defaultEntries : Datum.Completes Http.defaultEntries Http.defaultEntries := by
  refine ⟨List.prefix_rfl, ?_⟩
  decide

theorem isNormal_standard (located : Path.IsNormal workingDirectory) :
    (standard workingDirectory).IsNormal where
  baseDirectory := located
  extensions := by
    change ∀ extension ∈ Loader.defaultExtensions, _
    decide
  modulePaths := by simp [standard]
  protocols := by simp [standard]
  http := completes_defaultEntries

/-! ### Reading -/

theorem itemsOf_texts (texts : List String) : itemsOf (.list (texts.map .text)) = .ok (texts.map .text) := rfl

theorem readProtocols_known {names : List String} (read : readProtocols value = .ok names) :
    ∀ name ∈ names, name ∈ knownProtocols := by
  unfold readProtocols at read
  cases items : itemsOf value with
  | error fault => simp [items, bind, Except.bind] at read
  | ok all =>
    simp only [items, bind, Except.bind] at read
    split at read
    · rename_i none
      cases read
      intro name member
      by_contra unknown
      have found : name ∈ (all.map Datum.plain).filter fun name => !knownProtocols.contains name :=
        List.mem_filter.mpr ⟨member, by simpa using unknown⟩
      rw [List.isEmpty_iff.mp none] at found
      cases found
    · cases read

theorem readProtocols_texts {names : List String} (known : ∀ name ∈ names, name ∈ knownProtocols) :
    readProtocols (.list (names.map .text)) = .ok names := by
  have plain : (names.map Datum.text).map Datum.plain = names := by simp [Function.comp_def, Datum.plain]
  have all : names.filter (fun name => !knownProtocols.contains name) = [] :=
    List.filter_eq_nil_iff.mpr fun name member => by simpa using known name member
  unfold readProtocols
  simp only [itemsOf_texts, bind, Except.bind, plain, all]
  rfl

theorem readHttp_completes {entries : List (Datum × Datum)} (read : readHttp value = .ok entries) :
    Datum.Completes Http.defaultEntries entries := by
  unfold readHttp at read
  split at read
  · cases read
    exact completes_defaultEntries.insertAll _
  · cases read

theorem readHttp_dict {entries : List (Datum × Datum)}
    (completes : Datum.Completes Http.defaultEntries entries) : readHttp (.dict entries) = .ok entries :=
  congrArg Except.ok (completes.insertAll_eq (by decide))

/-- What holds of the default and of everything that is read holds of an entry. -/
theorem readEntry_of {α : Type} {P : α → Prop} {entries : List (Datum × Datum)} {name : String}
    {default a : α} {read : Datum → Except Fault α} (initial : P default)
    (reads : ∀ value a, read value = .ok a → P a)
    (entry : readEntry entries name default read = .ok a) : P a := by
  unfold readEntry at entry
  cases stands : Datum.field? name entries with
  | none =>
    rw [stands] at entry
    cases entry
    exact initial
  | some value =>
    rw [stands] at entry
    exact reads value a entry

theorem map_itemsOf {α : Type} {f : List Datum → α} {a : α} (read : (itemsOf value).map f = .ok a) :
    ∃ items, a = f items := by
  cases items : itemsOf value with
  | error fault =>
    rw [items] at read
    cases read
  | ok all =>
    rw [items] at read
    cases read
    exact ⟨all, rfl⟩

/-- Whatever is read is in normal form. -/
theorem ofEntries_isNormal (located : Path.IsNormal workingDirectory)
    (rooted : Path.isAbsolute roots.directory = true) {entries : List (Datum × Datum)}
    (read : ofEntries workingDirectory roots entries = .ok settings) : settings.IsNormal := by
  have initial := isNormal_standard located
  unfold ofEntries at read
  obtain ⟨baseDirectory, base, read⟩ := exists_of_bind read
  obtain ⟨extensions, dots, read⟩ := exists_of_bind read
  obtain ⟨modulePaths, paths, read⟩ := exists_of_bind read
  obtain ⟨protocols, names, read⟩ := exists_of_bind read
  obtain ⟨http, requests, read⟩ := exists_of_bind read
  cases read
  refine ⟨?_, ?_, ?_, ?_, ?_⟩
  · exact readEntry_of (P := Path.IsNormal) initial.baseDirectory (fun _ _ => isNormal_locate rooted) base
  · refine readEntry_of
      (P := fun found : List String => ∀ extension ∈ found, extension.toList.head? = some '.')
      initial.extensions (fun value found same => ?_) dots
    obtain ⟨items, rfl⟩ := map_itemsOf same
    intro extension member
    obtain ⟨item, _, rfl⟩ := List.mem_map.mp member
    exact head?_dotted item.plain
  · refine readEntry_of (P := fun found : List String => ∀ path ∈ found, Path.IsNormal path)
      initial.modulePaths (fun value found same => ?_) paths
    obtain ⟨items, _, located⟩ := exists_of_bind same
    exact isNormal_locateAll rooted located
  · exact readEntry_of (P := fun found : List String => ∀ name ∈ found, name ∈ knownProtocols)
      initial.protocols (fun value found => readProtocols_known) names
  · refine readEntry_of (P := Datum.Completes Http.defaultEntries) initial.http (fun value found same => ?_)
      requests
    split at same
    · cases same
      exact initial.http
    · exact readHttp_completes same

theorem ofDatum_isNormal (located : Path.IsNormal workingDirectory)
    (rooted : Path.isAbsolute roots.directory = true)
    (read : ofDatum workingDirectory roots value = .ok settings) :
    settings.IsNormal := by
  unfold ofDatum at read
  split at read
  · obtain ⟨entries, _, read⟩ := exists_of_bind read
    exact ofEntries_isNormal located rooted read
  · exact ofEntries_isNormal located rooted read

theorem ofDatum_dict {entries : List (Datum × Datum)} (filled : entries ≠ []) (workingDirectory : String)
    (roots : PathRoots) :
    ofDatum workingDirectory roots (.dict entries) = ofEntries workingDirectory roots entries := by
  have truth : (Datum.dict entries).truth = true := by simpa [Datum.truth] using filled
  exact if_pos truth

theorem readEntry_of_field {α : Type} {entries : List (Datum × Datum)} {name : String}
    (field : Datum.field? name entries = some value) (default : α) (read : Datum → Except Fault α) :
    readEntry entries name default read = read value := by
  unfold readEntry
  rw [field]

theorem map_texts {texts : List String} {f : Datum → String} (same : ∀ text ∈ texts, f (.text text) = text) :
    (texts.map Datum.text).map f = texts := by
  rw [List.map_map]
  exact (List.map_congr_left same).trans (List.map_id texts)

/-- A normal form is read back from its mapping as it is. -/
theorem IsNormal.ofDatum_toDatum (normal : settings.IsNormal) (workingDirectory : String)
    (roots : PathRoots) :
    ofDatum workingDirectory roots settings.toDatum = .ok settings := by
  have base := locate_of_isNormal normal.baseDirectory roots
  have extensions : (settings.extensions.map Datum.text).map (fun item => dotted item.plain) =
      settings.extensions :=
    map_texts fun extension member => dotted_of_dot (normal.extensions extension member)
  have paths := locateAll_of_isNormal normal.modulePaths roots
  rw [toDatum, ofDatum_dict (by simp)]
  unfold ofEntries
  dsimp only
  -- each name finds its own field
  rw [readEntry_of_field rfl, readEntry_of_field rfl, readEntry_of_field rfl, readEntry_of_field rfl,
    readEntry_of_field rfl]
  rw [base, itemsOf_texts, itemsOf_texts, readProtocols_texts normal.protocols]
  simp only [bind, Except.bind, Except.map, extensions, paths, readHttp_dict normal.http]
  rfl

/-- Reading settings is a projection. If the working directory is a normal path and the settings stand in an
absolute directory or in none, whatever is read is in normal form and has all the default settings of
requests, and it is read back from its own mapping as it is, wherever that is taken to stand, and whoever
has a home directory there. -/
theorem reading_is_a_projection {directory : Option String} {homes : Path.Homes}
    (located : Path.IsNormal workingDirectory)
    (rooted : ∀ path ∈ directory, Path.isAbsolute path = true)
    (read : ofDatum workingDirectory ⟨directory.getD workingDirectory, homes⟩ value = .ok settings) :
    settings.IsNormal ∧
    (∀ name ∈ ["timeout", "retries", "backoff", "headers"],
      ∃ found, Datum.field? name settings.http = some found) ∧
    ∀ roots, ofDatum workingDirectory roots settings.toDatum = .ok settings := by
  have below : Path.isAbsolute (directory.getD workingDirectory) = true := by
    cases directory with
    | none => exact located.absolute
    | some path => exact rooted path rfl
  have normal := ofDatum_isNormal located (by exact below) read
  refine ⟨normal, fun name known => normal.http.exists_field ?_, normal.ofDatum_toDatum workingDirectory⟩
  have keys : Http.defaultEntries.map Prod.fst =
      ["timeout", "retries", "backoff", "headers"].map Datum.text := rfl
  rw [keys]
  exact List.mem_map_of_mem known

/-- Settings with relative paths, paths of users, bare extensions and some settings of requests. -/
def relative : Datum :=
  .dict [(.text "base-dir", .text "../src/./app"), (.text "extensions", .list [.text "py", .text ".json"]),
    (.text "module-paths", .list
      [.text "~/lib", .text "//opt//lib/", .text "~root/x", .text "~nobody/x"]),
    (.text "protocols", .list [.text "file"]),
    (.text "http", .dict [(.text "proxy", .text "off"), (.text "retries", .int 5)])]

/-- The home directories of a user and of the root. -/
def twoHomes : Path.Homes := ⟨"/home/u/", fun name => if name = "root" then some "/root" else none⟩

/-- They are read as absolute paths and the like, which are read back from another directory and for another
user. -/
theorem relative_settings_are_projected :
    ∃ settings, ofDatum "/" ⟨"/etc/app", twoHomes⟩ relative = .ok settings ∧
      settings.baseDirectory = "/etc/src/app" ∧ settings.extensions = [".py", ".json"] ∧
      settings.modulePaths = ["/home/u/lib", "//opt/lib", "/root/x", "/etc/app/~nobody/x"] ∧
      settings.IsNormal ∧ ofDatum "/" ⟨"/srv", "/root"⟩ settings.toDatum = .ok settings := by
  have read : ofDatum "/" ⟨(some "/etc/app").getD "/", twoHomes⟩ relative =
      .ok ⟨"/etc/src/app", [".py", ".json"], ["/home/u/lib", "//opt/lib", "/root/x", "/etc/app/~nobody/x"],
        ["file"], [(.text "timeout", .float 5.0), (.text "retries", .int 5), (.text "backoff", .float 0.2),
          (.text "headers", .dict []), (.text "proxy", .text "off")]⟩ := rfl
  obtain ⟨normal, _, again⟩ := reading_is_a_projection ⟨rfl, rfl⟩ (by decide) read
  exact ⟨_, read, rfl, rfl, rfl, normal, again _⟩

end Settings

end ModuleSystem
