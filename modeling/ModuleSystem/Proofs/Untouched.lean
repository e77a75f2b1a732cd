import ModuleSystem.Proofs.Step.Require

/-! # Requests that attach nothing

A record becomes the module of its key only when there is a source to evaluate or a builtin to make. So a
request that goes to no key, that is answered from an entry, or whose source cannot be read leaves the
table of modules and all children as they are. -/

namespace ModuleSystem.Session

open Identifier (canonicalId)
open ModuleSystem.Action (AgreeAt Flow Moves)
open Cache (getOrLoad)

variable {s t : Session} {parent : Option Nat} {raw : Value} {origin : Origin}

/-- Nothing has been attached: the table of modules and all children are as they were. -/
structure Untouched (s t : Session) : Prop where
  modules : t.rest.modules = s.rest.modules
  children : ∀ number, (t.rest.record number).children = (s.rest.record number).children

namespace Untouched

instance : Calm Untouched where
  refl _ := ⟨rfl, fun _ => rfl⟩
  trans early late := ⟨late.modules.trans early.modules,
    fun number => (late.children number).trans (early.children number)⟩
  host _ _ _ := ⟨rfl, fun _ => rfl⟩
  heap _ _ _ := ⟨rfl, fun _ => rfl⟩
  calls _ _ _ _ := ⟨rfl, fun _ => rfl⟩

theorem note (event : Cache.Event Nat Value Raised) (s : Session) :
    Untouched s (s.update (noteEvent event)) :=
  have notes := notes_answer event s
  ⟨notes.modules, fun number => congrArg ModuleRecord.children (notes.record number)⟩

theorem settle (key : String) (outcome : Outcome Raised Value) (s : Session) :
    Untouched s (Cache.settle hooks key (outcome, s)).2 :=
  ⟨settle_modules key outcome s, fun number => by rw [settle_record]⟩

/-- A new record has no children, and nobody has it as one. -/
theorem create (id : String) (filename : Option String) (parent main : Option Nat) (s : Session) :
    Untouched s ⟨s.cache, { s.rest.addRecord id filename parent with main }⟩ := by
  refine ⟨rfl, fun number => ?_⟩
  change ((s.rest.addRecord id filename parent).record number).children = _
  rw [World.record_addRecord]
  split
  · rename_i new
    rw [new, World.record_size]
    rfl
  · rfl

end Untouched

theorem fetchSource_untouched (destination : Destination) (s : Session) :
    Untouched s (fetchSource destination s).2 := by
  have moves : Moves Untouched (fetchSource destination) :=
    .bind world_moves fun _ => .bind (note_moves _ _) fun _ =>
      .bind (.modify fun _ => ⟨rfl, fun _ => rfl⟩) fun _ => .bind (recordCall_moves _ _) fun _ =>
        fromLoader_moves _ (Loader.load_moves _ _)
  exact (moves s).moved

/-- A request that goes to no key attaches nothing. -/
theorem dispatch_lost (inner : Script.Requirer) (asMain : Bool) (lost : origin? parent raw s = none) :
    Untouched s (dispatch inner asMain parent raw s).2 := by
  have agree : AgreeAt Untouched (dispatch inner asMain parent raw) (dispatch inner asMain parent raw) s :=
    dispatch_lost_agreeAt asMain lost
  exact agree.moved

/-- A request asks the cache in a session where nothing has been attached yet, with a new record, whose
parent is the module that asks. -/
structure AsksCache (s : Session) (parent : Option Nat) (t : Session) (number : Nat) : Prop where
  cache : t.cache = s.cache
  later : s.rest.Later t.rest
  untouched : Untouched s t
  parent : (t.rest.record number).parent = parent

/-- A request that gets as far as that asks the cache, and may load its origin as the module of the new
record. -/
theorem dispatch_asks (asMain : Bool) (found : origin? parent raw s = some origin) :
    ∃ t number, AsksCache s parent t number ∧ ∀ inner, ∃ load, Loads s.rest inner number origin load ∧
      dispatch inner asMain parent raw s = getOrLoad hooks origin.key (some number) load t := by
  obtain ⟨t, filename, main, whence, _, reaches⟩ := dispatch_of_origin asMain found
  have resolved : t.cache = s.cache ∧ s.rest.Later t.rest ∧ Untouched s t := by
    rcases whence with rfl | rfl
    · exact ⟨rfl, .refl _, Flow.refl t⟩
    · have quiet : Quiet s (resolve raw parent s).2 := (resolve_moves raw parent s).moved
      have run : Run [] s (resolve raw parent s).2 := (resolve_moves raw parent s).moved
      exact ⟨quiet.cache, run.later, (resolve_moves raw parent s).moved⟩
  let asked : Session := ⟨t.cache, { t.rest.addRecord origin.key filename parent with main }⟩
  have created : t.rest.Later (t.rest.addRecord origin.key filename parent) := World.Step.create.later
  have chosen : t.rest.Later asked.rest := created.trans World.Step.main.later
  have attaches : Untouched t asked := .create origin.key filename parent main t
  refine ⟨asked, _, ⟨resolved.1, resolved.2.1.trans chosen, Flow.trans resolved.2.2 attaches, ?_⟩, reaches⟩
  change ((t.rest.addRecord origin.key filename parent).record t.rest.records.size).parent = parent
  rw [World.record_addRecord, if_pos rfl]

/-- A request whose key is absent loads its origin as the module of the new record. -/
theorem dispatch_loads_asked (asMain : Bool) (found : origin? parent raw s = some origin)
    (absent : s.cache.get? origin.key = none) :
    ∃ t number load, AsksCache s parent t number ∧ Loads s.rest require number origin load ∧
      dispatch require asMain parent raw s =
        Cache.settle hooks origin.key (load (Cache.start hooks origin.key (some number) t)) := by
  obtain ⟨t, number, asks, reaches⟩ := dispatch_asks asMain found
  obtain ⟨load, loads, reached⟩ := reaches require
  rw [← asks.cache] at absent
  exact ⟨t, number, load, asks, loads, reached.trans (Cache.getOrLoad_of_absent _ _ _ absent)⟩

/-- A request that is answered from an entry attaches nothing. -/
theorem dispatch_answered (inner : Script.Requirer) (asMain : Bool)
    (found : origin? parent raw s = some origin) {entry : Cache.Entry Nat Value Raised}
    (known : s.cache.get? origin.key = some entry) :
    Untouched s (dispatch inner asMain parent raw s).2 := by
  obtain ⟨t, number, asks, reaches⟩ := dispatch_asks asMain found
  obtain ⟨load, _, reached⟩ := reaches inner
  rw [← asks.cache] at known
  rw [reached]
  refine Flow.trans asks.untouched ?_
  cases entry with
  | resolved value =>
    rw [Cache.getOrLoad_of_resolved _ _ _ known]
    exact .note (.hit origin.key) t
  | failed error =>
    rw [Cache.getOrLoad_of_failed _ _ _ known]
    exact .note (.failureHit origin.key) t
  | pending part =>
    cases part with
    | none =>
      rw [Cache.getOrLoad_of_partless _ _ _ known]
      exact Flow.trans (.note (.deadEnd origin.key) t) (raise_moves _ _).moved
    | some part =>
      rw [Cache.getOrLoad_of_pending _ _ _ known]
      exact Flow.trans (.note (.cycle origin.key part) t) ⟨rfl, fun _ => rfl⟩

/-! ## Sources -/

/-- What a load does with the source that it has fetched. -/
def evaluateFetched (destination : Destination) (number : Nat) (source : Datum) : SessionAction Value := do
  change fun world => world.attach destination.key number
  change fun world => world.tell (.work .evaluate destination.key number)
  let name := EvaluatorTable.nameOf destination.key (some destination.filename)
  let world ← world
  wrapFailure number
    (evaluateWith require (world.evaluators.find name) (decodeSource source) name number)

/-- A request fetches a source in a session where nothing has been attached yet, and evaluates it. -/
structure Fetches (s : Session) (destination : Destination) (number : Nat)
    (result : Outcome Raised Value × Session) (u : Session) : Prop where
  later : s.rest.Later u.rest
  untouched : Untouched s u
  settles : result = Cache.settle hooks destination.key
    ((fetchSource destination >>= evaluateFetched destination number) u)

/-- A request for what a loader loads, whose key is absent, fetches its source and evaluates that. -/
theorem dispatch_fetches (asMain : Bool) {protocol : Option String} {loader : Nat} {resolved : String}
    (found : origin? parent raw s = some (.loaded protocol loader resolved))
    (absent : s.cache.get? (canonicalId protocol resolved) = none) :
    ∃ number u, Fetches s (placeOf protocol loader resolved) number
      (dispatch require asMain parent raw s) u := by
  obtain ⟨t, number, x, asks, loads, reached⟩ := dispatch_loads_asked asMain found absent
  let key := canonicalId protocol resolved
  let started := Cache.start hooks key (some number) t
  let fetching := started.update fun world => world.tell (.work .fetch key number)
  have begun : t.rest.Later started.rest := Run.start_later ..
  have noted := Untouched.note (.load key (some number)) (t.put key (.pending (some number)))
  have starts : Untouched t started := ⟨noted.modules, noted.children⟩
  cases loads with
  | loaded =>
    refine ⟨number, fetching, (asks.later.trans begun).trans (World.tell_later ..), ?_, reached⟩
    exact Flow.trans asks.untouched (Flow.trans starts ⟨rfl, fun _ => rfl⟩)

/-- A request whose source cannot be read has no value, resolves no key and attaches nothing. -/
structure Unread (s : Session) (key : String) (result : Outcome Raised Value × Session) : Prop where
  valueless : ∀ value, result.1 ≠ .value value
  unresolved : ∀ value, result.2.cache.get? key ≠ some (.resolved value)
  untouched : Untouched s result.2

theorem Fetches.unread {destination : Destination} {number : Nat} {result : Outcome Raised Value × Session}
    {u : Session} (fetches : Fetches s destination number result u)
    (fails : ∀ source, (fetchSource destination u).1 ≠ .value source) : Unread s destination.key result := by
  have fetched := fetchSource_untouched destination u
  have settles := fetches.settles
  rw [Action.bind_apply] at settles
  cases ran : fetchSource destination u with
  | mk outcome v =>
    rw [ran] at fails fetched settles
    have reached : Untouched s v := Flow.trans fetches.untouched fetched
    cases outcome with
    | value source => exact absurd rfl (fails source)
    | error raised =>
      subst settles
      refine ⟨nofun, fun value resolved => ?_, Flow.trans reached (.settle destination.key (.error raised) v)⟩
      rw [Cache.get?_settle, if_pos rfl] at resolved
      cases resolved
    | interruption raised =>
      subst settles
      refine ⟨nofun, fun value resolved => ?_,
        Flow.trans reached (.settle destination.key (.interruption raised) v)⟩
      rw [Cache.get?_settle, if_pos rfl] at resolved
      cases resolved

end ModuleSystem.Session
