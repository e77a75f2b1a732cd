import ModuleSystem.Proofs.Origin

/-! # Requests

Where a request goes can be told from the session alone: either it has an origin and asks the cache for the
key of that, with a new record, or it ends as its resolution does. All that is said of requests is said from
there. If the key has an entry, the request is answered from it: no loader, no evaluator and no builtin is at
work, and apart from a record that nobody refers to, nothing about modules changes. -/

namespace ModuleSystem.Session

open ModuleSystem.Action (Moves AgreeAt Flow)
open Cache (getOrLoad)
open Identifier (canonicalId classify)

/-- The key that a request goes to, if it gets as far as that. -/
def target? (parent : Option Nat) (raw : Value) (s : Session) : Option String :=
  match raw with
  | .scalar (.text name) =>
    if name = "" then none
    else if s.rest.builtins.contains name then some name
    else ((resolve raw parent s).1.value?).map Destination.key
  | _ => none

theorem target?_eq_map_origin? (parent : Option Nat) (raw : Value) (s : Session) :
    target? parent raw s = (origin? parent raw s).map Origin.key := by
  cases raw with
  | scalar shown =>
    cases shown with
    | text name =>
      simp only [target?, origin?]
      by_cases empty : name = ""
      · simp only [if_pos empty, Option.map_none]
      · by_cases defined : s.rest.builtins.contains name = true
        · simp only [if_neg empty, if_pos defined, Option.map_some, Origin.key]
        · simp only [if_neg empty, if_neg defined]
          cases ran : (resolve (.text name) parent s).1 with
          | value destination => exact congrArg some (resolve_text_origin ran).1
          | error | interruption => rfl
    | _ => rfl
  | _ => rfl

/-- Nothing has changed but the log, the marks of errors and what loaders have been asked. -/
structure Quiet (s t : Session) : Prop where
  cache : t.cache = s.cache
  history : t.rest.history = s.rest.history
  records : t.rest.records = s.rest.records
  exports : t.rest.heap.exports = s.rest.heap.exports
  modules : t.rest.modules = s.rest.modules
  builtinCalls : t.rest.builtinCalls = s.rest.builtinCalls
  loads : ∀ n : Nat,
    (t.rest.mounted[n]?).map Mounted.loads = (s.rest.mounted[n]?).map Mounted.loads

theorem Quiet.refl (s : Session) : Quiet s s := ⟨rfl, rfl, rfl, rfl, rfl, rfl, fun _ => rfl⟩

theorem Quiet.trans {s t u : Session} (early : Quiet s t) (late : Quiet t u) : Quiet s u where
  cache := late.cache.trans early.cache
  history := late.history.trans early.history
  records := late.records.trans early.records
  exports := late.exports.trans early.exports
  modules := late.modules.trans early.modules
  builtinCalls := late.builtinCalls.trans early.builtinCalls
  loads n := (late.loads n).trans (early.loads n)

instance : Calm Quiet where
  refl := .refl
  trans := .trans
  host _ _ _ := ⟨rfl, rfl, rfl, rfl, rfl, rfl, fun _ => rfl⟩
  heap _ _ same := ⟨rfl, rfl, rfl, same, rfl, rfl, fun _ => rfl⟩
  calls s number f same := by
    refine ⟨rfl, rfl, rfl, rfl, rfl, rfl, fun n => ?_⟩
    simp only [World.updateMounted, Array.getElem?_modify]
    split
    · rw [Option.map_map]
      exact congrArg (fun f => Option.map f _) (funext fun mounted => (same mounted).2)
    · rfl

/-- A request has been answered without any work: all that is left of it is a new record, and what has
been told. -/
structure Answered (s t : Session) (told : List Happening) : Prop where
  cache : t.cache = s.cache
  history : ∃ object, t.rest.history = told ++ .create (.exports object) :: s.rest.history
  records : ∀ n < s.rest.records.size, t.rest.records[n]? = s.rest.records[n]?
  modules : t.rest.modules = s.rest.modules
  builtinCalls : t.rest.builtinCalls = s.rest.builtinCalls
  loads : ∀ n : Nat,
    (t.rest.mounted[n]?).map Mounted.loads = (s.rest.mounted[n]?).map Mounted.loads

variable {s t : Session} {told : List Happening} {parent : Option Nat} {raw : Value} {key : String}
  {inner : Script.Requirer} {origin : Origin}

namespace Answered

/-- A new record, which may also become the main one. -/
theorem of_record {u : Session} {id : String} {filename : Option String} (quiet : Quiet s t)
    (main : Option Nat)
    (made : u = ⟨t.cache, { t.rest.addRecord id filename parent with main }⟩) :
    Answered s u [] := by
  subst made
  refine ⟨quiet.cache, ⟨t.rest.heap.exports.size, ?_⟩, fun n inside => ?_, quiet.modules,
    quiet.builtinCalls, quiet.loads⟩
  · exact congrArg (_ :: ·) quiet.history
  · simp only [World.addRecord, quiet.records]
    rw [Array.getElem?_push, if_neg (Nat.ne_of_lt inside)]

theorem note (answered : Answered s t told) (event : Cache.Event Nat Value Raised) :
    Answered s (t.update (noteEvent event)) (.cache event :: told) := by
  obtain ⟨object, history⟩ := answered.history
  obtain ⟨cache, _, records, modules, builtinCalls, loads⟩ := answered
  unfold noteEvent Cache.Held.update
  dsimp only
  split
  · exact ⟨cache, ⟨object, congrArg (_ :: ·) history⟩, records, modules, builtinCalls, loads⟩
  · exact ⟨cache, ⟨object, congrArg (_ :: ·) history⟩, records, modules, builtinCalls, loads⟩

theorem tell (answered : Answered s t told) (happening : Happening) :
    Answered s (t.update fun world => world.tell happening) (happening :: told) := by
  obtain ⟨object, history⟩ := answered.history
  exact ⟨answered.cache, ⟨object, congrArg (_ :: ·) history⟩, answered.records, answered.modules,
    answered.builtinCalls, answered.loads⟩

end Answered

/-! ## What a request comes to -/

/-- What loads an origin as the module of a record: what its builtin makes, or the source that its loader
gives for the id that it has resolved. -/
inductive Loads (world : World) (inner : Script.Requirer) (number : Nat) :
    Origin → SessionAction Value → Prop
  | builtin {name : String} {builtin : Builtin} (known : world.builtins.get? name = some builtin) :
      Loads world inner number (.builtin name) (loadBuiltin inner name builtin number)
  | loaded {protocol : Option String} {loader : Nat} {resolved : String} :
      Loads world inner number (.loaded protocol loader resolved)
        (load inner ⟨loader, resolved, canonicalId protocol resolved,
          filenameOf protocol resolved (canonicalId protocol resolved)⟩ number)

theorem Loads.eq_builtin {world : World} {inner : Script.Requirer} {number : Nat} {name : String}
    {builtin : Builtin} {load : SessionAction Value}
    (loads : Loads world inner number (.builtin name) load)
    (known : world.builtins.get? name = some builtin) : load = loadBuiltin inner name builtin number := by
  cases loads with
  | builtin known' =>
    rw [known] at known'
    cases known'
    rfl

/-- A request that gets as far as that asks the cache for the key of its origin, with a new record, and
what it may load is its origin. By then it has been resolved, unless it is for a builtin. A request for
the main module of what a loader loads has chosen the record that is attached under the key, or else the
new one. -/
theorem dispatch_of_origin (asMain : Bool) (found : origin? parent raw s = some origin) :
    ∃ t filename main, (t = s ∨ t = (resolve raw parent s).2) ∧
      (main = if asMain && origin.isLoaded then
        some ((t.rest.modules.get? origin.key).getD t.rest.records.size) else t.rest.main) ∧
      ∀ inner, ∃ load, Loads s.rest inner t.rest.records.size origin load ∧
        dispatch inner asMain parent raw s = getOrLoad hooks origin.key (some t.rest.records.size) load
          ⟨t.cache, { t.rest.addRecord origin.key filename parent with main }⟩ := by
  unfold origin? at found
  split at found
  · rename_i name
    split at found
    · cases found
    · rename_i nonempty
      simp only [dispatch, Action.bind_apply, Action.get, if_neg nonempty]
      split at found
      · rename_i defined
        cases found
        obtain ⟨builtin, known⟩ := Option.isSome_iff_exists.mp defined
        rw [known]
        refine ⟨s, none, s.rest.main, .inl rfl, ?_, fun inner => ⟨_, .builtin known, rfl⟩⟩
        rw [Origin.isLoaded, Bool.and_false]
        rfl
      · rename_i undefined
        have missing : s.rest.builtins.get? name = none := by
          simpa [Ordered.contains] using undefined
        obtain ⟨destination, value, rfl⟩ := Option.map_eq_some_iff.mp found
        obtain ⟨t, ran⟩ := Action.exists_of_value? value
        obtain ⟨key, filename, _⟩ := resolve_text_origin (congrArg Prod.fst ran)
        obtain ⟨loader, resolved, _, _⟩ := destination
        dsimp only at key filename
        subst key filename
        simp only [missing, Action.bind_apply, ran]
        refine ⟨t, some (filenameOf (classify name).protocol resolved
          (canonicalId (classify name).protocol resolved)), ?_⟩
        cases asMain with
        | false => exact ⟨t.rest.main, .inr rfl, rfl, fun inner => ⟨_, .loaded, rfl⟩⟩
        | true => exact ⟨_, .inr rfl, rfl, fun inner => ⟨_, .loaded, rfl⟩⟩
  · cases found

/-- A request that gets no further than that is not for a text, or it ends as its resolution does. -/
theorem dispatch_of_no_origin (asMain : Bool) (lost : origin? parent raw s = none) :
    (∃ shown, ∀ inner, dispatch inner asMain parent raw s = raise (.identifierNotText shown) s) ∨
      ∃ result : Outcome Raised Value × Session, (∀ value, result.1 ≠ .value value) ∧
        (∀ inner, dispatch inner asMain parent raw s = result) ∧
        (resolve raw parent >>= fun _ => Action.pure Value.null) s = result := by
  unfold origin? at lost
  split at lost
  · rename_i name
    split at lost
    · rename_i empty
      refine .inl ⟨s.reprOf (.text name), fun inner => ?_⟩
      simp only [dispatch, Action.bind_apply, Action.get, if_pos empty]
    · rename_i nonempty
      split at lost
      · cases lost
      · rename_i undefined
        have missing : s.rest.builtins.get? name = none := by
          simpa [Ordered.contains] using undefined
        simp only [dispatch, Action.bind_apply, Action.get, if_neg nonempty, missing]
        right
        cases ran : resolve (.text name) parent s with
        | mk outcome t =>
          rw [ran] at lost
          cases outcome with
          | value destination => cases lost
          | error error => exact ⟨(.error error, t), by simp, fun inner => rfl, rfl⟩
          | interruption error => exact ⟨(.interruption error, t), by simp, fun inner => rfl, rfl⟩
  · rename_i other
    refine .inl ⟨s.reprOf raw, fun inner => ?_⟩
    simp only [dispatch, Action.bind_apply, Action.get]

/-! ## Requests that agree -/

section

variable {R : Session → Session → Prop} {one other : Script.Requirer}

/-- However inner requests are answered, a request without an origin ends as its resolution does. -/
theorem dispatch_lost_agreeAt [Calm R] (asMain : Bool) (lost : origin? parent raw s = none) :
    AgreeAt R (dispatch one asMain parent raw) (dispatch other asMain parent raw) s := by
  rcases dispatch_of_no_origin asMain lost with ⟨shown, raises⟩ | ⟨result, _, ends, ran⟩
  · exact (raise_moves _ s).of_eq (raises one) (raises other)
  · have ended : Moves R (resolve raw parent >>= fun _ => Action.pure Value.null) :=
      .bind (resolve_moves raw parent) fun _ => .done _
    exact (ended s).of_eq ((ends one).trans ran.symm) ((ends other).trans ran.symm)

/-- Requests agree if they do from where they ask the cache for their origin. -/
theorem dispatch_agreeAt [Calm R] {asMain : Bool} {parent : Option Nat} {raw : Value}
    (asked : ∀ origin filename main t x y, s.rest.Offers origin → R s t →
      (asMain = false → main = t.rest.main) → Loads s.rest one t.rest.records.size origin x →
      Loads s.rest other t.rest.records.size origin y →
      let u : Session := ⟨t.cache, { t.rest.addRecord origin.key filename parent with main }⟩
      R t u ∧ AgreeAt R (getOrLoad hooks origin.key (some t.rest.records.size) x)
        (getOrLoad hooks origin.key (some t.rest.records.size) y) u) :
    AgreeAt R (dispatch one asMain parent raw) (dispatch other asMain parent raw) s := by
  cases found : origin? parent raw s with
  | none => exact dispatch_lost_agreeAt asMain found
  | some origin =>
    obtain ⟨t, filename, main, whence, chosen, reaches⟩ := dispatch_of_origin asMain found
    obtain ⟨x, loads, reachesOne⟩ := reaches one
    obtain ⟨y, alsoLoads, reachesOther⟩ := reaches other
    have resolved : R s t := by
      rcases whence with rfl | rfl
      · exact Flow.refl t
      · exact (resolve_moves raw parent s).moved
    have kept (isRequest : asMain = false) : main = t.rest.main := by
      rw [chosen, isRequest]
      rfl
    obtain ⟨made, agree⟩ :=
      asked origin filename main t x y (origin?_offers found) resolved kept loads alsoLoads
    exact agree.onward (Flow.trans resolved made) reachesOne reachesOther

end

/-! ## Requests that the cache answers -/

/-- A request that goes to a key asks the cache for it, and has done no work until then. -/
theorem dispatch_reaches (inner : Script.Requirer) (asMain : Bool)
    (target : target? parent raw s = some key) :
    ∃ number load t, Answered s t [] ∧
      dispatch inner asMain parent raw s = getOrLoad hooks key (some number) load t := by
  rw [target?_eq_map_origin?] at target
  obtain ⟨origin, found, rfl⟩ := Option.map_eq_some_iff.mp target
  obtain ⟨t, filename, main, whence, _, reaches⟩ := dispatch_of_origin asMain found
  obtain ⟨load, _, reached⟩ := reaches inner
  have quiet : Quiet s t := by
    rcases whence with rfl | rfl
    · exact .refl t
    · exact (resolve_moves raw parent s).moved
  exact ⟨_, load, _, .of_record quiet main rfl, reached⟩

/-- A key that has been resolved gives its value. -/
theorem dispatch_of_resolved (inner : Script.Requirer) (asMain : Bool) {value : Value}
    (target : target? parent raw s = some key)
    (known : s.cache.get? key = some (.resolved value)) :
    ∃ t, Answered s t [.cache (.hit key)] ∧
      dispatch inner asMain parent raw s = (.value value, t) := by
  obtain ⟨number, load, t, answered, reached⟩ := dispatch_reaches inner asMain target
  rw [← answered.cache] at known
  exact ⟨_, answered.note _, reached.trans (Cache.getOrLoad_of_resolved _ _ _ known)⟩

/-- A key whose load has failed raises its error. -/
theorem dispatch_of_failed (inner : Script.Requirer) (asMain : Bool) {error : Raised}
    (target : target? parent raw s = some key) (known : s.cache.get? key = some (.failed error)) :
    ∃ t, Answered s t [.cache (.failureHit key)] ∧
      dispatch inner asMain parent raw s = (.error error, t) := by
  obtain ⟨number, load, t, answered, reached⟩ := dispatch_reaches inner asMain target
  rw [← answered.cache] at known
  exact ⟨_, answered.note _, reached.trans (Cache.getOrLoad_of_failed _ _ _ known)⟩

/-- A key that is being loaded gives the exports that its record has at the moment. -/
theorem dispatch_of_pending (inner : Script.Requirer) (asMain : Bool) {number : Nat}
    (target : target? parent raw s = some key)
    (known : s.cache.get? key = some (.pending (some number))) :
    ∃ t, Answered s t
        [.lend number (t.rest.record number).exports, .cache (.cycle key number)] ∧
      dispatch inner asMain parent raw s = (.value (t.rest.record number).exports, t) := by
  obtain ⟨created, load, t, answered, reached⟩ := dispatch_reaches inner asMain target
  rw [← answered.cache] at known
  have noted := answered.note (.cycle key number)
  generalize asked : t.update (noteEvent (.cycle key number)) = u at noted
  refine ⟨u.update fun world => world.tell (.lend number (u.rest.record number).exports),
    noted.tell (.lend number (u.rest.record number).exports), ?_⟩
  rw [reached, Cache.getOrLoad_of_pending _ _ _ known, ← asked]
  rfl

end ModuleSystem.Session
