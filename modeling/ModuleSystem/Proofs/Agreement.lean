import ModuleSystem.Proofs.Reachable

/-! # Outcomes agree with the cache

A request ends as the entry of its key tells afterwards: with its value, with its error, with the exports
of a module that is being loaded, or, if the key is absent, by an interruption. A request that no loader
resolves goes to no key. It leaves everything as it was, so that a loader which is registered later
serves it. -/

namespace ModuleSystem.Session

open ModuleSystem.Action (Flow Moves)
open Cache (getOrLoad)
open Fault (Outside Known)
open Identifier (classify)

variable {s t : Session} {parent : Option Nat} {name : String} {number : Nat} {α : Type}
  {E : Fault → Prop}

instance : Calm (InvImage Eq fun s : Session => s.rest.main) where
  refl _ := rfl
  trans := Eq.trans
  host _ _ _ := rfl
  heap _ _ _ := rfl
  calls _ _ _ _ := rfl

/-- How a request that goes to a key ends, by the entry of the key afterwards. Some errors of the system
may be made up by its surroundings or by scripts. -/
def Agrees (E : Fault → Prop) (before after : Session) (key : String)
    (outcome : Outcome Raised Value) : Prop :=
  match after.cache.get? key with
  | some (.resolved value) => outcome = .value value
  | some (.pending part) => ∃ number, part = some number ∧
      before.cache.get? key = some (.pending (some number)) ∧
      outcome = .value (after.rest.record number).exports
  | some (.failed error) => outcome = .error error ∧ error.fault.Own (after.MadeUp E)
  | none => ∃ error, outcome = .interruption error ∧ error.fault.isInterruption = true

theorem getOrLoad_agrees {key : String} {load : SessionAction Value} (sound : s.Sound E)
    (ends : Sound E (getOrLoad hooks key (some number) load s).2)
    (fair : (getOrLoad hooks key (some number) load s).1.Fair
      (getOrLoad hooks key (some number) load s).2) :
    Agrees E s (getOrLoad hooks key (some number) load s).2 key
      (getOrLoad hooks key (some number) load s).1 := by
  unfold Agrees
  cases known : s.cache.get? key with
  | none =>
    have settled := Cache.get?_getOrLoad hooks (some number) load known
    generalize getOrLoad hooks key (some number) load s = result at ends fair settled ⊢
    obtain ⟨outcome, last⟩ := result
    dsimp only at settled ⊢
    rw [settled]
    cases outcome with
    | value value => rfl
    | error error =>
      obtain ⟨found, own⟩ := ends.errors key error settled
      exact ⟨rfl, Fault.Known.own found own⟩
    | interruption error => exact ⟨error, rfl, fair⟩
  | some entry =>
    cases entry with
    | resolved value =>
      rw [Cache.getOrLoad_of_resolved _ _ _ known]
      dsimp only [Cache.Held.update]
      rw [known]
    | failed error =>
      rw [Cache.getOrLoad_of_failed _ _ _ known] at ends ⊢
      obtain ⟨found, own⟩ := ends.errors key error known
      dsimp only [Cache.Held.update] at found ⊢
      rw [known]
      exact ⟨rfl, Fault.Known.own found own⟩
    | pending part =>
      cases part with
      | none => exact absurd known (sound.parts key)
      | some lent =>
        rw [Cache.getOrLoad_of_pending _ _ _ known]
        have kept : (hooks.readPart lent (s.update (hooks.note (.cycle key lent)))).2.cache.get? key =
            some (.pending (some lent)) := known
        rw [kept]
        exact ⟨lent, rfl, rfl, rfl⟩

/-- A request that goes to a key agrees with its entry. -/
theorem dispatch_agrees (sound : s.Sound E) (asMain : Bool) {raw : Value} {key : String}
    (target : target? parent raw s = some key) :
    Agrees E s (dispatch require asMain parent raw s).2 key (dispatch require asMain parent raw s).1 := by
  have orderly : Orderly (knowing E) s _ (dispatch require asMain parent raw) :=
    dispatch_orderly (fun _ => trivial) trivial asMain (Watch.asking_of_untracked _ id) raw
  have outside : ∀ loading ∈ ([] : List Loading).head?, s.rest.HasSource loading.key := by simp
  have fair := (dispatch_runs asMain parent raw outside).fair
  have ends := Watch.Moved.clean (orderly s sound (Flow.refl s)).moved sound
  obtain ⟨origin, found, rfl⟩ := Option.map_eq_some_iff.mp
    ((target?_eq_map_origin? parent raw s).symm.trans target)
  obtain ⟨t, number, moved, same, _, _, reaches⟩ :=
    dispatch_moved sound asMain (Watch.asking_of_untracked _ id) found
  obtain ⟨load, _, reached⟩ := reaches require
  rw [reached] at ends fair ⊢
  have agrees := getOrLoad_agrees (moved.clean sound) ends fair
  unfold Agrees at agrees ⊢
  rwa [same] at agrees

/-! ## Requests that go to no key -/

theorem raise_apply (fault : Fault) (s : Session) :
    raise (α := α) fault s =
      (if fault.isInterruption then .interruption ⟨s.rest.heap.marks, fault⟩
        else .error ⟨s.rest.heap.marks, fault⟩,
        s.update fun world => { world with heap := world.heap.marked }) := by
  change raiseAgain (α := α) ⟨s.rest.heap.marks, fault⟩ _ = _
  unfold raiseAgain
  split
  · rfl
  · rfl

theorem raiseBecause_apply (fault : Fault) (cause : Raised) (s : Session) :
    raiseBecause (α := α) fault cause s =
      (if fault.isInterruption then .interruption ⟨s.rest.heap.marks, fault⟩
        else .error ⟨s.rest.heap.marks, fault⟩,
        s.update fun world => { world with heap := world.heap.marked.link s.rest.heap.marks cause }) := by
  change raiseAgain (α := α) ⟨s.rest.heap.marks, fault⟩ _ = _
  unfold raiseAgain
  split
  · rfl
  · rfl

/-- Nothing follows on an error that is raised. -/
theorem raise_bind {β : Type} (fault : Fault) (f : α → SessionAction β) (s : Session) :
    (raise fault >>= f) s = raise fault s := by
  rw [Action.bind_apply, raise_apply, raise_apply]
  cases fault.isInterruption with
  | true => rfl
  | false => rfl

/-- The directory from which a module asks. -/
def directoryOf (world : World) (parent : Option Nat) : Option String :=
  (parent.map world.record).bind ModuleRecord.directory

/-- A destination by what a loader has resolved. -/
def destinationOf (identifier : Identifier) (number : Nat) (resolved : String) : Destination :=
  let key := Identifier.canonicalId identifier.protocol resolved
  ⟨number, resolved, key, filenameOf identifier.protocol resolved key⟩

/-- The loader of an identifier resolves its id later on. -/
theorem resolve_of_found (parent : Option Nat)
    (found : s.rest.registry.find (classify name).protocol (classify name).id = .ok number) :
    ∃ t, s.rest.Later t.rest ∧ resolve (.text name) parent s =
      (fromLoader (.text (classify name).canonical)
        ((loaderOf s.rest number).resolve (classify name).id (directoryOf s.rest parent)) >>=
        fun resolved => Action.pure (destinationOf (classify name) number resolved)) t := by
  let noted := (note runtimeSource ("classified " ++ s.reprOf (.text name) ++ " as " ++
    identifierText (classify name)) s).2
  let call := LoaderCall.resolve (classify name).id
    ((parent.map s.rest.record).map fun record => s.datumOf record.id)
  have early : s.rest.Later noted.rest := (World.Step.host (.write ..)).later
  have called : Run [] noted (recordCall number call noted).2 := (recordCall_moves _ _ _).moved
  refine ⟨(recordCall number call noted).2, early.trans called.later, ?_⟩
  change (ofExcept (s.rest.registry.find (classify name).protocol (classify name).id) >>= _) noted = _
  rw [found]
  rfl

theorem resolve_of_unfound (parent : Option Nat) {fault : Fault}
    (failed : s.rest.registry.find (classify name).protocol (classify name).id = .error fault) :
    ∃ t, resolve (.text name) parent s = raise fault t := by
  refine ⟨(note runtimeSource ("classified " ++ s.reprOf (.text name) ++ " as " ++
    identifierText (classify name)) s).2, ?_⟩
  change (ofExcept (s.rest.registry.find (classify name).protocol (classify name).id) >>= _) _ = _
  rw [failed]
  exact raise_bind fault _ _

/-- How the resolution of an identifier fails: nothing serves it, or its loader raises an error, which is
wrapped unless it is one of the system. -/
inductive Misses (E : Fault → Prop) (world : World) (identifier : Identifier) :
    Outcome Raised α → Prop
  | unsupported {protocol : String} {raised : Raised} (named : identifier.protocol = some protocol)
      (fault : raised.fault = .unsupportedProtocol (.text protocol)) :
      Misses E world identifier (.error raised)
  | noBare {raised : Raised} (named : identifier.protocol = none)
      (fault : raised.fault = .noBareLoader (.text identifier.id)) :
      Misses E world identifier (.error raised)
  | failed {number : Nat} {raised : Raised} {cause : Fault}
      (found : world.registry.find identifier.protocol identifier.id = .ok number)
      (fault : raised.fault = .loaderFailure (.text identifier.canonical) cause true)
      (foreign : cause.Foreign) : Misses E world identifier (.error raised)
  | passed {number : Nat} {raised : Raised}
      (found : world.registry.find identifier.protocol identifier.id = .ok number)
      (own : raised.fault.isRequireError = true) (made : E raised.fault) :
      Misses E world identifier (.error raised)
  | interrupted {number : Nat} {raised : Raised}
      (found : world.registry.find identifier.protocol identifier.id = .ok number)
      (interrupts : raised.fault.isInterruption = true) :
      Misses E world identifier (.interruption raised)

/-- How the work of a loader ends: with a value, with a failure that keeps its error, with an error of the
system that it makes up, or by an interruption. -/
inductive LoaderEnds (E : Fault → Prop) (id : Datum) : Outcome Raised α → Prop
  | value (a : α) : LoaderEnds E id (.value a)
  | failed {raised : Raised} {cause : Fault} (fault : raised.fault = .loaderFailure id cause true)
      (foreign : cause.Foreign) : LoaderEnds E id (.error raised)
  | passed {raised : Raised} (own : raised.fault.isRequireError = true) (made : E raised.fault) :
      LoaderEnds E id (.error raised)
  | interrupted {raised : Raised} (interrupts : raised.fault.isInterruption = true) :
      LoaderEnds E id (.interruption raised)

theorem fromLoader_ends (id : Datum) {action : HostAction α} (moves : Moves Host.Later action)
    (meets : (action s.rest.host).1.Meets (fun _ => True) (Outside E)) :
    LoaderEnds E id (fromLoader id action s).1 := by
  have fair := (moves s.rest.host).fair
  cases ran : action s.rest.host with
  | mk outcome host =>
    rw [ran] at meets fair
    cases outcome with
    | value a =>
      simp only [fromLoader, Action.bind_apply, onHost, ran]
      exact .value a
    | error fault =>
      have outside : fault.Outside E := meets
      have ordinary : ¬ fault.isInterruption = true := fair.resolve_right not_false
      simp only [fromLoader, Action.bind_apply, onHost, ran, raiseLoaderError]
      split
      · rw [raise_apply, if_neg ordinary]
        obtain ⟨own, made⟩ := outside.own ‹_›
        exact .passed own made
      · change LoaderEnds E id (raiseBecause (.loaderFailure id fault true) _ _).1
        rw [raiseBecause_apply]
        exact .failed rfl (Bool.eq_false_iff.mpr ‹_›)
    | interruption fault =>
      have interrupts : fault.isInterruption = true := fair
      simp only [fromLoader, Action.bind_apply, onHost, ran, raise_apply, if_pos interrupts]
      exact .interrupted interrupts

theorem find_error {registry : Registry Nat} {protocol : Option String} {id : String} {fault : Fault}
    (failed : registry.find protocol id = .error fault) :
    (∃ name, protocol = some name ∧ fault = .unsupportedProtocol (.text name)) ∨
      protocol = none ∧ fault = .noBareLoader (.text id) := by
  unfold Registry.find at failed
  split at failed
  · split at failed
    · cases failed
    · cases failed
      exact .inr ⟨rfl, rfl⟩
  · split at failed
    · cases failed
    · cases failed
      exact .inl ⟨_, rfl, rfl⟩

theorem resolve_misses (sound : s.Sound E) (parent : Option Nat) (name : String) :
    (∃ destination, (resolve (.text name) parent s).1 = .value destination) ∨
      Misses E s.rest (classify name) (resolve (.text name) parent s).1 := by
  cases found : s.rest.registry.find (classify name).protocol (classify name).id with
  | error fault =>
    obtain ⟨t, ran⟩ := resolve_of_unfound parent found
    rw [ran, raise_apply]
    obtain ⟨protocol, named, rfl⟩ | ⟨named, rfl⟩ := find_error found
    · exact .inr (.unsupported named rfl)
    · exact .inr (.noBare named rfl)
  | ok number =>
    obtain ⟨t, later, ran⟩ := resolve_of_found parent found
    have bounded := Loader.resolve_bounded (K := fun _ => True) (sound.resolves number)
      (classify name).id (directoryOf s.rest parent) t.rest.host (fun _ _ _ _ _ => trivial) (Flow.refl _)
    have ends := fromLoader_ends (s := t) (.text (classify name).canonical)
      (Loader.resolve_moves (loaderOf s.rest number) (classify name).id (directoryOf s.rest parent))
      (Outcome.Ends.meets (bounded.ends.mono (fun _ => id) (fun _ => id) fun _ => And.left))
    rw [ran, Action.bind_apply]
    generalize fromLoader _ _ t = result at ends ⊢
    obtain ⟨outcome, last⟩ := result
    cases ends with
    | value resolved => exact .inl ⟨_, rfl⟩
    | failed fault foreign => exact .inr (.failed found fault foreign)
    | passed own made => exact .inr (.passed found own made)
    | interrupted interrupts => exact .inr (.interrupted found interrupts)

/-- A request that goes to no key is not answered, and nothing of it is left but what loaders have been
asked and what is in the log. -/
structure Undirected (E : Fault → Prop) (s : Session) (name : String)
    (result : Outcome Raised Value × Session) : Prop where
  quiet : Quiet s result.2
  main : result.2.rest.main = s.rest.main
  misses : Misses E s.rest (classify name) result.1

theorem dispatch_undirected (sound : s.Sound E) (asMain : Bool) (nonempty : name ≠ "")
    (lost : target? parent (.text name) s = none) :
    Undirected E s name (dispatch require asMain parent (.text name) s) := by
  have quiet : Quiet s (resolve (.text name) parent s).2 := (resolve_moves _ _ s).moved
  have main : s.rest.main = (resolve (.text name) parent s).2.rest.main :=
    (resolve_moves (R := InvImage Eq fun s : Session => s.rest.main) _ _ s).moved
  have misses := resolve_misses sound parent name
  simp only [target?, if_neg nonempty] at lost
  cases defined : s.rest.builtins.get? name with
  | some builtin => simp [Ordered.contains, defined] at lost
  | none =>
    simp only [dispatch, Action.bind_apply, Action.get, if_neg nonempty, defined]
    simp only [Ordered.contains, defined] at lost
    generalize resolve (.text name) parent s = result at quiet main misses lost ⊢
    obtain ⟨outcome, t⟩ := result
    rcases misses with ⟨destination, resolved⟩ | misses
    · cases resolved
      cases lost
    · cases misses with
      | unsupported named fault => exact ⟨quiet, main.symm, .unsupported named fault⟩
      | noBare named fault => exact ⟨quiet, main.symm, .noBare named fault⟩
      | failed found fault foreign => exact ⟨quiet, main.symm, .failed found fault foreign⟩
      | passed found own made => exact ⟨quiet, main.symm, .passed found own made⟩
      | interrupted found interrupts => exact ⟨quiet, main.symm, .interrupted found interrupts⟩

/-! ## Loaders that are registered later -/

theorem fromLoader_value? (id : Datum) (action : HostAction α) (s : Session) :
    (fromLoader id action s).1.value? = (action s.rest.host).1.value? := by
  cases ran : action s.rest.host with
  | mk outcome host =>
    cases outcome with
    | value a =>
      simp only [fromLoader, Action.bind_apply, onHost, ran]
      rfl
    | error fault =>
      simp only [fromLoader, Action.bind_apply, onHost, ran, raiseLoaderError]
      split
      · rw [raise_apply]
        cases fault.isInterruption <;> rfl
      · change Outcome.value? (raiseBecause (.loaderFailure id fault true) _ _).1 = _
        rw [raiseBecause_apply]
        rfl
    | interruption fault =>
      simp only [fromLoader, Action.bind_apply, onHost, ran]
      rw [raise_apply]
      cases fault.isInterruption <;> rfl

/-- A request of a module goes where a loader resolves its identifier to, as the host is later on. -/
def ResolvedBy (loader : Loader) (number : Nat) (parent : Option Nat) (name : String) (s : Session) :
    Prop :=
  ∃ host, s.rest.host.Later host ∧ origin? parent (.text name) s =
    ((loader.resolve (classify name).id (directoryOf s.rest parent) host).1.value?).map
      (.loaded (classify name).protocol number)

/-- What an identifier is resolved to by its loader, as the host is later on. -/
theorem resolve_value?_of_found (parent : Option Nat)
    (found : s.rest.registry.find (classify name).protocol (classify name).id = .ok number) :
    ∃ host, s.rest.host.Later host ∧ (resolve (.text name) parent s).1.value? =
      (((loaderOf s.rest number).resolve (classify name).id (directoryOf s.rest parent)
        host).1.value?).map (destinationOf (classify name) number) := by
  obtain ⟨t, later, ran⟩ := resolve_of_found parent found
  refine ⟨t.rest.host, later.host, ?_⟩
  have value := fromLoader_value? (.text (classify name).canonical)
    ((loaderOf s.rest number).resolve (classify name).id (directoryOf s.rest parent)) t
  rw [ran, ← value, Action.bind_apply]
  generalize fromLoader _ _ t = result
  obtain ⟨outcome, last⟩ := result
  cases outcome with
  | value resolved => rfl
  | error | interruption => rfl

theorem resolvedBy_of_found (parent : Option Nat) (nonempty : name ≠ "")
    (undefined : s.rest.builtins.contains name = false)
    (found : s.rest.registry.find (classify name).protocol (classify name).id = .ok number) :
    ResolvedBy (loaderOf s.rest number) number parent name s := by
  obtain ⟨host, later, same⟩ := resolve_value?_of_found parent found
  refine ⟨host, later, ?_⟩
  simp only [origin?, if_neg nonempty, undefined, Bool.false_eq_true, if_false, same, Option.map_map]
  rfl

theorem register_resolvedBy (parent : Option Nat) (nonempty : name ≠ "")
    (undefined : s.rest.builtins.contains name = false) {protocol : String}
    (named : (classify name).protocol = some protocol) (loader : Loader) :
    (register (.text protocol) loader s).2.cache = s.cache ∧
      ResolvedBy loader s.rest.mounted.size parent name (register (.text protocol) loader s).2 := by
  have full : protocol ≠ "" := by
    rintro rfl
    exact (Identifier.isProtocol_of_classify named).nonempty rfl
  rw [register_eq full]
  have found : (serving s.rest protocol loader).registry.find (classify name).protocol
      (classify name).id = .ok s.rest.mounted.size := by
    rw [named]
    simp only [serving, Registry.find, Ordered.get?_set_self]
  have mounted : loaderOf (serving s.rest protocol loader) s.rest.mounted.size = loader :=
    World.loaderOf_push_self
  have resolved := resolvedBy_of_found (s := ⟨s.cache, serving s.rest protocol loader⟩) parent
    nonempty undefined found
  rw [mounted] at resolved
  exact ⟨rfl, resolved⟩

theorem registerBare_resolvedBy (parent : Option Nat) (nonempty : name ≠ "")
    (undefined : s.rest.builtins.contains name = false) (bare : (classify name).protocol = none)
    (loader : Loader) : ResolvedBy loader s.rest.mounted.size parent name
      ⟨s.cache, s.rest.registerBare (some loader)⟩ := by
  have found : (s.rest.registerBare (some loader)).registry.find (classify name).protocol
      (classify name).id = .ok s.rest.mounted.size := by
    rw [bare]
    rfl
  have mounted : loaderOf (s.rest.registerBare (some loader)) s.rest.mounted.size = loader :=
    World.loaderOf_push_self
  have resolved := resolvedBy_of_found (s := ⟨s.cache, s.rest.registerBare (some loader)⟩) parent
    nonempty undefined found
  rwa [mounted] at resolved

/-! ## All requests -/

/-- The result of a request for a name agrees with the cache. -/
structure AgreesWithCache (E : Fault → Prop) (s : Session) (parent : Option Nat) (name : String)
    (result : Outcome Raised Value × Session) : Prop where
  undirected : target? parent (.text name) s = none → Undirected E s name result
  directed : ∀ key, target? parent (.text name) s = some key → Agrees E s result.2 key result.1

theorem dispatch_agreesWithCache (sound : s.Sound E) (asMain : Bool) (parent : Option Nat)
    (nonempty : name ≠ "") :
    AgreesWithCache E s parent name (dispatch require asMain parent (.text name) s) :=
  ⟨dispatch_undirected sound asMain nonempty, fun _ => dispatch_agrees sound asMain⟩

/-- A session with a builtin that raises an error of the system of modules, with one that raises an error
that closes a generator, and with a loader whose resolution is interrupted. -/
def pretending : Session :=
  ⟨.empty, { World.empty .empty with
    builtins := .ofList
      [("loop", ⟨[], [], some (.cyclicRequire (.text "x")), .null⟩),
        ("close", ⟨[], [], some (.named "GeneratorExit" []), .null⟩)]
    registry := ⟨.ofList [("stub", some 0)], none⟩
    mounted := #[⟨.prepared ⟨.ofList [("x", .error (.named "KeyboardInterrupt" []))], .empty, .empty⟩,
      0, []⟩] }⟩

end ModuleSystem.Session
