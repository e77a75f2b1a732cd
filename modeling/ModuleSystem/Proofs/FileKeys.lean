import ModuleSystem.Proofs.Created
import ModuleSystem.Proofs.Evaluation
import ModuleSystem.Proofs.FileLoader
import ModuleSystem.Proofs.Keys

/-! # The keys of a file

A file is known under the canonical ids of its absolute path, which begins with one slash or with two: as
a file of the file protocol, and as the file that a bare name stands for. As long as extensions have no
slashes these are all keys under which it is evaluated, and it is evaluated under each of them once. -/

namespace ModuleSystem

open ModuleSystem.Path (NormalPath)
open Identifier (canonicalId fileProtocol)

namespace FileTree

/-- The keys of the file at a place: its path with one slash in front or with two, as a bare name and as a
path of the file protocol. -/
def keysOf (place : List (List Char)) : List String :=
  [none, some fileProtocol].flatMap fun protocol => [1, 2].map fun slashes =>
    canonicalId protocol (String.ofList (Path.ofSegments slashes place))

theorem length_keysOf (place : List (List Char)) : (keysOf place).length = 4 := rfl

theorem mem_keysOf (path : NormalPath) {protocol : Option String}
    (file : protocol = none ∨ protocol = some fileProtocol) :
    canonicalId protocol path.text ∈ keysOf path.segments :=
  List.mem_flatMap.mpr ⟨protocol, by simpa using file,
    List.mem_map.mpr ⟨path.slashes, by simpa using path.rooted, rfl⟩⟩

end FileTree

open FileTree (keysOf)

/-- The place of the file that an origin leads to: what is asked for is a file of the file protocol or a
bare name, and it has been resolved to an absolute path to a file. -/
def Origin.place? (tree : FileTree) : Origin → Option (List (List Char))
  | .loaded protocol _ resolved =>
    if (protocol = none ∨ protocol = some fileProtocol) ∧ Path.isAbsolute resolved = true then
      tree.place? resolved
    else none
  | .builtin _ => none

/-- An origin whose protocol is one of the web. -/
def Origin.IsWeb : Origin → Prop
  | .loaded protocol _ _ => protocol = some "http" ∨ protocol = some "https"
  | .builtin _ => False

/-- The key whose source is evaluated. -/
def Happening.evaluated? : Happening → Option String
  | .work .evaluate key _ => some key
  | _ => none

/-- The keys whose sources a history evaluates, once for every evaluation. -/
def evaluated (events : List Happening) : List String := events.filterMap Happening.evaluated?

namespace Session

section

variable {settings : Settings} {world : World} {origin : Origin} {place : List (List Char)}

theorem Follows.loader (follows : Follows settings world) {protocol : Option String} {loader : Nat}
    {resolved : String} (offers : world.Offers (.loaded protocol loader resolved)) :
    expected? world.host.files.workingDirectory settings protocol = some (loaderOf world loader) := by
  obtain ⟨_, found⟩ := offers.found
  exact (follows _ _ _ found).2

theorem Follows.file_loader (follows : Follows settings world) {loader : Nat} {resolved : String}
    (offers : world.Offers (.loaded (some fileProtocol) loader resolved)) :
    loaderOf world loader = .ofBase world.host.files.workingDirectory (some settings.baseDirectory)
      settings.extensions := by
  simpa [expected?, loaderFor?] using (follows.loader offers).symm

theorem Follows.bare_loader (follows : Follows settings world) {loader : Nat} {resolved : String}
    (offers : world.Offers (.loaded none loader resolved)) :
    settings.modulePaths ≠ [] ∧ loaderOf world loader =
      .ofSearchPath world.host.files.workingDirectory settings.modulePaths settings.extensions := by
  obtain ⟨some_path, same⟩ := Option.ite_none_left_eq_some.mp (follows.loader offers)
  exact ⟨some_path, (Option.some.inj same).symm⟩

/-- Any other protocol is one of the web. -/
theorem Follows.isWeb (follows : Follows settings world) {protocol : String} {loader : Nat}
    {resolved : String} (offers : world.Offers (.loaded (some protocol) loader resolved))
    (other : protocol ≠ fileProtocol) : Origin.IsWeb (.loaded (some protocol) loader resolved) := by
  have asked := follows.loader offers
  simp only [expected?, loaderFor?, if_neg other] at asked
  obtain ⟨web, _⟩ := Option.ite_none_right_eq_some.mp asked
  exact web.imp (congrArg some) (congrArg some)

/-- The file protocol resolves to normal paths. -/
theorem Follows.file_normal (follows : Follows settings world) (slashless : Slashless settings.extensions)
    (rooted : Path.isAbsolute world.host.files.workingDirectory = true) {loader : Nat}
    {resolved : String} (offers : world.Offers (.loaded (some fileProtocol) loader resolved)) :
    ∃ path : NormalPath, resolved = path.text := by
  obtain ⟨id, directory, early, seen, _, resolves⟩ := offers.resolves
  rw [follows.file_loader offers] at resolves
  exact Loader.ofBase_normal slashless rooted seen resolves

/-- A bare name that is resolved to a file is resolved to a normal path. -/
theorem Follows.bare_normal (follows : Follows settings world) (slashless : Slashless settings.extensions)
    (rooted : Path.isAbsolute world.host.files.workingDirectory = true) {loader : Nat}
    {resolved : String} (offers : world.Offers (.loaded none loader resolved))
    (absolute : Path.isAbsolute resolved = true) (file : world.host.files.isFile resolved = true) :
    ∃ path : NormalPath, resolved = path.text := by
  obtain ⟨some_path, same⟩ := follows.bare_loader offers
  obtain ⟨id, directory, early, _, before, resolves⟩ := offers.resolves
  rw [same] at resolves
  rw [← before.files] at file
  exact Loader.ofSearchPath_normal slashless rooted some_path resolves absolute file

/-- Whatever leads to a file has one of the keys of the file. -/
theorem Follows.key_mem (follows : Follows settings world) (slashless : Slashless settings.extensions)
    (rooted : Path.isAbsolute world.host.files.workingDirectory = true) (offers : world.Offers origin)
    (leads : origin.place? world.host.files = some place) :
    origin.key ∈ keysOf place ∧
      ∃ content, world.host.files.nodeAt? place.reverse = some (.file content) := by
  cases origin with
  | builtin => cases leads
  | loaded protocol loader resolved =>
    obtain ⟨⟨kind, absolute⟩, there⟩ := Option.ite_none_right_eq_some.mp leads
    have file := FileTree.isFile_of_place? there
    obtain ⟨path, rfl⟩ : ∃ path : NormalPath, resolved = path.text := by
      rcases kind with rfl | rfl
      · exact follows.bare_normal slashless rooted offers absolute file
      · exact follows.file_normal slashless rooted offers
    obtain ⟨same, content, node⟩ := FileTree.place?_normal file
    cases there.symm.trans same
    exact ⟨FileTree.mem_keysOf path kind, content, node⟩

/-- Whatever has a source leads to a file, unless it comes from the web. -/
theorem Follows.leads_of_load (follows : Follows settings world)
    (slashless : Slashless settings.extensions)
    (rooted : Path.isAbsolute world.host.files.workingDirectory = true) {protocol : Option String}
    {loader : Nat} {resolved : String} (offers : world.Offers (.loaded protocol loader resolved))
    {late : Host} {source : Datum} (later : world.host.Later late)
    (loads : ((loaderOf world loader).load resolved late).1 = .value source) :
    Origin.IsWeb (.loaded protocol loader resolved) ∨
      ∃ place, Origin.place? world.host.files (.loaded protocol loader resolved) = some place := by
  have leads (kind : protocol = none ∨ protocol = some fileProtocol)
      (absolute : Path.isAbsolute resolved = true) (file : late.files.isFile resolved = true) :
      ∃ place, Origin.place? world.host.files (.loaded protocol loader resolved) = some place := by
    rw [later.files] at file
    exact ⟨_, (if_pos ⟨kind, absolute⟩).trans (FileTree.place?_of_isFile absolute file).1⟩
  cases protocol with
  | none =>
    rw [(follows.bare_loader offers).2] at loads
    obtain ⟨absolute, file⟩ := Loader.isFile_of_load_search loads
    exact .inr (leads (.inl rfl) absolute file)
  | some name =>
    by_cases served : name = fileProtocol
    · subst served
      obtain ⟨path, rfl⟩ := follows.file_normal slashless rooted offers
      rw [follows.file_loader offers] at loads
      exact .inr (leads (.inr rfl) path.isAbsolute_text (Loader.isFile_of_load_file loads))
    · exact .inl (follows.isWeb offers served)

end

/-! ## Evaluations -/

variable {P : Fault → Prop} {s t : Session} {key : String}

/-- The evaluation of a key whose load has just been started is still to come. -/
def awaits (key : String) : List Happening → Nat
  | .cache (.load begun _) :: _ => if begun = key then 1 else 0
  | .work .fetch fetched _ :: _ => if fetched = key then 1 else 0
  | _ => 0

/-- Every evaluation of a key, and one that is still to come, has a load of its own. -/
def Accounted (key : String) (events : List Happening) : Prop :=
  (evaluated events).count key + awaits key events ≤ (started events).count key

theorem Accounted.step (accounted : Accounted key s.rest.history) (step : Step P s t) :
    Accounted key t.rest.history := by
  rcases step.history_cases with same | ⟨happening, told, due⟩
  · rwa [same]
  · rw [told]
    -- what neither starts a load nor is work leaves nothing to come
    have plain (unstarted : happening.started? = none) (idle : happening.evaluated? = none)
        (last : awaits key (happening :: s.rest.history) = 0) :
        Accounted key (happening :: s.rest.history) := by
      unfold Accounted evaluated started at accounted ⊢
      rw [last, List.filterMap_cons_none unstarted, List.filterMap_cons_none idle]
      omega
    cases happening with
    | cache event =>
      cases event with
      | load begun part =>
        unfold Accounted evaluated started at accounted ⊢
        simp only [List.filterMap_cons, Happening.evaluated?, Happening.started?, List.count_cons,
          beq_iff_eq, awaits]
        omega
      | _ => exact plain rfl rfl rfl
    | work work worked number =>
      cases due work worked number rfl with
      | fetch offers begun =>
        obtain ⟨earlier, split⟩ := List.head?_eq_some_iff.mp begun.latest
        rw [split] at accounted ⊢
        exact accounted
      | evaluate offers later loads fetched =>
        obtain ⟨earlier, split⟩ := List.head?_eq_some_iff.mp fetched.latest
        rw [split] at accounted ⊢
        unfold Accounted evaluated started at accounted ⊢
        simp only [List.filterMap_cons, Happening.evaluated?, Happening.started?, List.count_cons,
          beq_iff_eq, awaits] at accounted ⊢
        exact accounted
      | make => exact plain rfl rfl rfl
    | _ => exact plain rfl rfl rfl

theorem Accounted.steps (accounted : Accounted key s.rest.history) (steps : Steps P s t) :
    Accounted key t.rest.history := by
  induction steps with
  | refl => exact accounted
  | tail _ step ih => exact ih.step step

/-- What evaluations a run has: one of every key, and one more for every interruption of its load. Hence
without interruptions no key is evaluated twice, and no file more often than it has keys. -/
structure EvaluatesKeysOnce (events : List Happening) : Prop where
  once : ∀ key, (evaluated events).count key ≤ 1 + (cutShort events).count key
  distinct : cutShort events = [] → (evaluated events).Nodup
  files : cutShort events = [] →
    ∀ place, ((evaluated events).filter fun key => key ∈ keysOf place).length ≤ 4

theorem after_evaluatesKeysOnce (cache : s.cache = .empty) (history : s.rest.history = [])
    (tasks : List Task) : EvaluatesKeysOnce (s.after tasks).rest.history := by
  obtain ⟨events, tells⟩ := (after_run s tasks).tells
  have whole : (s.after tasks).rest.history = events := by
    rw [tells.history, history, List.append_nil]
  have once (key : String) : (evaluated events).count key ≤ 1 + (cutShort events).count key := by
    have nothing : Accounted key s.rest.history := by simp [history, Accounted, evaluated, awaits]
    have accounted := nothing.steps (after_steps (clean_of_fresh cache) tasks)
    rw [whole] at accounted
    have starts := tells.evaluatesOnce.starts key
    unfold Accounted at accounted
    omega
  have distinct (uncut : cutShort events = []) : (evaluated events).Nodup :=
    List.nodup_iff_count_le_one.mpr fun key => by simpa [uncut] using once key
  rw [whole]
  refine ⟨once, distinct, fun uncut place => ?_⟩
  have sub : (evaluated events).filter (fun key => key ∈ keysOf place) ⊆ keysOf place :=
    fun key member => by simpa using (List.mem_filter.mp member).2
  exact (((distinct uncut).filter _).subperm sub).length_le.trans_eq (FileTree.length_keysOf place)

/-! ## Files by their places -/

/-- A key is one of those of the regular file at a place. -/
structure IsKeyOf (tree : FileTree) (key : String) (place : List (List Char)) : Prop where
  mem : key ∈ keysOf place
  file : ∃ content, tree.nodeAt? place.reverse = some (.file content)

/-- Whatever is asked for or evaluated in a session and leads to a file of a tree has one of the keys of
the file, and apart from the web nothing else is evaluated. -/
structure KeepsToKeys (tree : FileTree) (s : Session) : Prop where
  requests : ∀ parent raw origin place, origin? parent raw s = some origin →
    origin.place? tree = some place → IsKeyOf tree origin.key place
  evaluations : ∀ key number, .work .evaluate key number ∈ s.rest.history →
    ∃ origin, s.rest.Offers origin ∧ origin.key = key ∧
      (origin.IsWeb ∨ ∃ place, origin.place? tree = some place ∧ IsKeyOf tree key place)

section

variable {settings : Settings} {host : Host} {origin : Origin} {place : List (List Char)}

theorem Created.isKeyOf (created : Created settings host s) (slashless : Slashless settings.extensions)
    (rooted : Path.isAbsolute host.files.workingDirectory = true) (offers : s.rest.Offers origin)
    (leads : origin.place? host.files = some place) : IsKeyOf host.files origin.key place := by
  rw [← created.files] at rooted leads ⊢
  obtain ⟨mem, file⟩ := created.follows.key_mem slashless rooted offers leads
  exact ⟨mem, file⟩

theorem Created.evaluations (created : Created settings host s)
    (slashless : Slashless settings.extensions)
    (rooted : Path.isAbsolute host.files.workingDirectory = true) (steps : Steps P s t) (key : String)
    (number : Nat) (member : .work .evaluate key number ∈ t.rest.history) :
    ∃ origin, s.rest.Offers origin ∧ origin.key = key ∧
      (origin.IsWeb ∨ ∃ place, origin.place? host.files = some place) := by
  induction steps with
  | refl => simp [created.history] at member
  | @tail u v onward step ih =>
    have later := SmallSteps.later onward
    rcases step.history_cases with same | ⟨happening, told, due⟩
    · rw [same] at member
      exact ih member
    · rw [told, List.mem_cons] at member
      rcases member with now | before
      · cases due .evaluate key number now.symm with
        | evaluate offers goesOn loads fetched =>
          rw [later.loaderOf] at loads
          rw [← created.files] at rooted ⊢
          exact ⟨_, later.offered offers, rfl, created.follows.leads_of_load slashless rooted
            (later.offered offers) (later.host.trans goesOn) loads⟩
      · exact ih before

theorem Created.keepsToKeys (created : Created settings host s)
    (slashless : Slashless settings.extensions)
    (rooted : Path.isAbsolute host.files.workingDirectory = true) (steps : Steps P s t) :
    KeepsToKeys host.files t where
  requests parent raw origin place found leads :=
    created.isKeyOf slashless rooted (steps.later.offered (origin?_offers found)) leads
  evaluations key number member := by
    obtain ⟨origin, offers, rfl, kind⟩ := created.evaluations slashless rooted steps key number member
    exact ⟨origin, steps.later.offers offers, rfl, kind.imp_right fun ⟨place, leads⟩ =>
      ⟨place, leads, created.isKeyOf slashless rooted offers leads⟩⟩

end

/-! ## One value for every key -/

/-- A settled entry stays. -/
theorem Steps.keeps_settled (steps : Steps P s t) {entry : Cache.Entry Nat Value Raised}
    (settled : entry.state ≠ .pending) (known : s.cache.get? key = some entry) :
    t.cache.get? key = some entry := by
  induction steps with
  | refl => exact known
  | tail _ step ih =>
    -- a load starts only where nothing is known, and settles only what is pending
    rcases step.cache_cases with same | ⟨origin, number, _, absent, rfl⟩ |
      ⟨origin, number, outcome, pending, _, rfl⟩
    · rwa [same]
    · have other : key ≠ origin.key := by
        rintro rfl
        cases ih.symm.trans absent
      exact (Ordered.get?_set ..).trans ((if_neg other).trans ih)
    · have other : key ≠ origin.key := by
        rintro rfl
        cases ih.symm.trans pending
        exact settled rfl
      rw [Cache.get?_settle, if_neg other, ih]

/-- A request outside of a load of its key that has a value leaves the value as the entry of its key. -/
theorem dispatch_settles {inner : Script.Requirer} {asMain : Bool} {parent : Option Nat}
    {raw value : Value} (target : target? parent raw s = some key)
    (outside : ∀ part, s.cache.get? key ≠ some (.pending part))
    (ran : dispatch inner asMain parent raw s = (.value value, t)) :
    t.cache.get? key = some (.resolved value) := by
  obtain ⟨number, load, u, answered, reached⟩ := dispatch_reaches inner asMain target
  rw [← answered.cache] at outside
  rw [ran] at reached
  cases known : u.cache.get? key with
  | none =>
    have left := Cache.get?_getOrLoad hooks (some number) load known
    rw [← reached] at left
    exact left
  | some entry =>
    cases entry with
    | pending part => exact absurd known (outside part)
    | failed error =>
      rw [Cache.getOrLoad_of_failed _ _ _ known] at reached
      cases reached
    | resolved found =>
      rw [Cache.getOrLoad_of_resolved _ _ _ known] at reached
      cases reached
      exact known

/-- In a session that is created from settings, every key is evaluated once, unless its load is
interrupted. If no extension has a slash, a file is evaluated under its own keys only, which are four at
most, and requests that lead to it go to one of these. Requests that go to one key outside of a cycle have
one value, whoever makes them and whenever. -/
theorem files_are_evaluated_once_per_key :
    (∀ settings builtins host tasks,
      Steps (fun _ => True) (created settings builtins host)
        ((created settings builtins host).after tasks) ∧
      EvaluatesKeysOnce ((created settings builtins host).after tasks).rest.history) ∧
    (∀ settings builtins host, Path.isAbsolute host.files.workingDirectory = true →
      Slashless settings.extensions → ∀ t, Steps (fun _ => True) (created settings builtins host) t →
        KeepsToKeys host.files t) ∧
    ∀ (s t u : Session) key value inner asMain parent raw, target? parent raw s = some key →
      (∀ part, s.cache.get? key ≠ some (.pending part)) →
      dispatch inner asMain parent raw s = (.value value, t) → Steps (fun _ => True) t u →
      ∀ inner asMain parent raw, target? parent raw u = some key →
        (dispatch inner asMain parent raw u).1 = .value value := by
  refine ⟨fun settings builtins host tasks => ?_,
    fun settings builtins host rooted slashless t steps => ?_,
    fun s t u key value inner asMain parent raw target outside ran steps again toMain child text goes =>
      ?_⟩
  · have created := created_spec settings builtins host
    exact ⟨after_steps (clean_of_fresh created.cache) tasks,
      after_evaluatesKeysOnce created.cache created.history tasks⟩
  · exact (created_spec settings builtins host).keepsToKeys slashless rooted steps
  · have kept := steps.keeps_settled (by simp [Cache.Entry.state]) (dispatch_settles target outside ran)
    obtain ⟨last, _, answered⟩ := dispatch_of_resolved again toMain goes kept
    rw [answered]

/-- A tree with one file, which is an empty script. -/
def oneFile : FileTree :=
  ⟨.ofList [("/lib", .directory), ("/lib/a.py", .file []), ("/lib/b.d", .directory)], "/"⟩

/-- A session on the tree, with a search path, with a base directory that begins with two slashes, and with
an extension that leads to another directory and back. -/
def manyWays : Session :=
  created ⟨"//lib", [".py", ".d/../a.py"], ["/lib"], ["file"], []⟩ .empty
    { Host.empty with files := oneFile }

/-- Requests for the one file. -/
def manyRequests : List Task :=
  ["a", "/lib/a.py", "./a", "//lib/a.py", "/lib/b"].map fun name => .require none (.text name)

theorem after_manyRequests : manyWays.after manyRequests =
    ["a", "/lib/a.py", "./a", "//lib/a.py", "/lib/b"].foldl
      (fun s name => (dispatch require false none (.text name) s).2) manyWays := by
  unfold after manyRequests
  rw [List.foldl_map]
  simp only [perform]
  rw [← require_eq_dispatch]

/-- One file is evaluated five times without any interruption: as the file of a bare name, as a path of
the file protocol, for both of them with two slashes in front, and by an extension that leads to it. Each
evaluation gives exports of its own. -/
theorem one_file_has_many_keys :
    (require none (.text "a") manyWays).1 = .value (.exports 0) ∧
    (require none (.text "/lib/a.py") (require none (.text "a") manyWays).2).1 = .value (.exports 1) ∧
    cutShort (manyWays.after manyRequests).rest.history = [] ∧
    evaluated (manyWays.after manyRequests).rest.history =
      ["file:///lib/b.d/../a.py", "//lib/a.py", "file:////lib/a.py", "file:///lib/a.py", "/lib/a.py"] ∧
    ∀ path ∈ ["/lib/a.py", "//lib/a.py", "/lib/b.d/../a.py"],
      oneFile.place? path = some [['l', 'i', 'b'], ['a', '.', 'p', 'y']] := by
  rw [after_manyRequests, require_eq_dispatch]
  simp only [List.forall_mem_cons]
  exact ⟨rfl, rfl, rfl, rfl, rfl, rfl, rfl, List.forall_mem_nil _⟩

end Session

end ModuleSystem
