import ModuleSystem.Proofs.Reachable

/-! # Sessions that are created from settings

A session that is created from settings has the loaders that its settings ask for and no others, for the
protocols that they name and for bare names if they have a search path. Nothing has happened in it. -/

namespace ModuleSystem.Session

open ModuleSystem.Action (Flow)

/-- The session that is created from settings on a host, where some builtins are defined. -/
def created (settings : Settings) (builtins : Ordered Builtin) (host : Host) : Session :=
  (configure settings ⟨.empty, { World.empty host with builtins }⟩).2

/-- The loader that settings ask for, for a protocol or for bare names. -/
def expected? (workingDirectory : String) (settings : Settings) : Option String → Option Loader
  | some protocol => loaderFor? workingDirectory settings protocol
  | none =>
    if settings.modulePaths = [] then none
    else some (.ofSearchPath workingDirectory settings.modulePaths settings.extensions)

/-- Every loader that a world finds is the one that settings ask for. -/
def Follows (settings : Settings) (world : World) : Prop :=
  ∀ protocol id number, world.registry.find protocol id = .ok number →
    number < world.mounted.size ∧ expected? world.host.files.workingDirectory settings protocol =
      some (loaderOf world number)

variable {settings : Settings} {world : World} {s t : Session}

theorem Follows.empty (host : Host) (builtins : Ordered Builtin) :
    Follows settings { World.empty host with builtins } := by
  intro protocol id number found
  cases protocol <;> cases found

/-- One more loader: what is found is found as before, or it is the new one, which is expected. -/
theorem Follows.mount (follows : Follows settings world) {registry : Registry Nat} {loader : Loader}
    (finds : ∀ protocol id number, registry.find protocol id = .ok number →
      world.registry.find protocol id = .ok number ∨ number = world.mounted.size ∧
        expected? world.host.files.workingDirectory settings protocol = some loader) :
    Follows settings { world with registry, mounted := world.mounted.push ⟨loader, 0, []⟩ } := by
  intro protocol id number found
  rw [Array.size_push]
  rcases finds protocol id number found with before | ⟨rfl, new⟩
  · obtain ⟨old, same⟩ := follows protocol id number before
    rw [World.loaderOf_push_of_lt old]
    exact ⟨Nat.lt_succ_of_lt old, same⟩
  · rw [World.loaderOf_push_self]
    exact ⟨Nat.lt_succ_self _, new⟩

theorem Follows.serving (follows : Follows settings world) {protocol : String} {loader : Loader}
    (asked : loaderFor? world.host.files.workingDirectory settings protocol = some loader) :
    Follows settings (serving world protocol loader) := by
  refine follows.mount fun other id number found => ?_
  cases other with
  | none => exact .inl found
  | some name =>
    simp only [Registry.find, Ordered.get?_set] at found ⊢
    by_cases same : name = protocol
    · subst same
      simp only [if_true] at found
      cases found
      exact .inr ⟨rfl, asked⟩
    · simp only [if_neg same] at found
      exact .inl found

theorem Follows.registerBare (follows : Follows settings world) (some_path : settings.modulePaths ≠ []) :
    Follows settings (world.registerBare (some
      (.ofSearchPath world.host.files.workingDirectory settings.modulePaths settings.extensions))) := by
  refine follows.mount fun other id number found => ?_
  cases other with
  | none =>
    cases found
    exact .inr ⟨rfl, if_neg some_path⟩
  | some name => exact .inl found

/-- Settings are followed, on the files that a host has, and no module is touched. -/
structure Supplied (settings : Settings) (s t : Session) : Prop where
  files : t.rest.host.files = s.rest.host.files
  builtins : t.rest.builtins = s.rest.builtins
  modules : t.rest.modules = s.rest.modules
  main : t.rest.main = s.rest.main
  follows : Follows settings s.rest → Follows settings t.rest

instance : Flow (Supplied settings) where
  refl _ := ⟨rfl, rfl, rfl, rfl, id⟩
  trans early late := ⟨late.files.trans early.files, late.builtins.trans early.builtins,
    late.modules.trans early.modules, late.main.trans early.main, late.follows ∘ early.follows⟩

theorem registerAll_supplied (settings : Settings) (protocols : List String) (s : Session) :
    ∃ t, registerAll settings protocols s = (.value (), t) ∧ Supplied settings s t := by
  induction protocols generalizing s with
  | nil => exact ⟨s, rfl, Flow.refl s⟩
  | cons protocol rest ih =>
    simp only [registerAll, Action.bind_apply, Session.world, Action.gets]
    cases asked : loaderFor? s.rest.host.files.workingDirectory settings protocol with
    | none => exact ih s
    | some loader =>
      obtain ⟨nonempty, _⟩ := loaderFor?_raises (P := fun _ => True) asked
      obtain ⟨t, ran, supplied⟩ := ih ⟨s.cache, serving s.rest protocol loader⟩
      have served : Supplied settings s ⟨s.cache, serving s.rest protocol loader⟩ :=
        ⟨rfl, rfl, rfl, rfl, fun follows => follows.serving asked⟩
      refine ⟨t, ?_, Flow.trans served supplied⟩
      simp only [Action.bind_apply, register_eq nonempty]
      exact ran

theorem configure_supplied (settings : Settings) (s : Session) :
    Supplied settings s (configure settings s).2 := by
  obtain ⟨t, ran, supplied⟩ := registerAll_supplied settings settings.protocols s
  refine Flow.trans supplied ?_
  simp only [configure, Action.bind_apply, ran]
  cases paths : settings.modulePaths with
  | nil => exact ⟨rfl, rfl, rfl, rfl, id⟩
  | cons path rest =>
    refine ⟨rfl, rfl, rfl, rfl, fun follows => ?_⟩
    have bare := follows.registerBare (by simp [paths])
    rw [paths] at bare
    exact bare

/-- What is true of every session that is created from settings. -/
structure Created (settings : Settings) (host : Host) (s : Session) : Prop where
  cache : s.cache = .empty
  history : s.rest.history = []
  files : s.rest.host.files = host.files
  follows : Follows settings s.rest

/-- To create a session from settings is to set it up, and no more. -/
theorem created_setUp (settings : Settings) (builtins : Ordered Builtin) (host : Host) :
    SetUp (fun _ => True) (Session.empty host) (created settings builtins host) := by
  have defined : SetUp (fun _ => True) (Session.empty host) ⟨.empty, { World.empty host with builtins }⟩ :=
    ⟨rfl, rfl, rfl, rfl, rfl, fun raises => { raises with builtins := fun _ _ _ _ _ => trivial }⟩
  exact Flow.trans defined (configure_moves settings _).moved

theorem created_spec (settings : Settings) (builtins : Ordered Builtin) (host : Host) :
    Created settings host (created settings builtins host) := by
  have setUp := created_setUp settings builtins host
  have supplied := configure_supplied settings ⟨.empty, { World.empty host with builtins }⟩
  exact ⟨setUp.cache, setUp.history, supplied.files, supplied.follows (.empty host builtins)⟩

end ModuleSystem.Session
