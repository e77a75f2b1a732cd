import ModuleSystem.Proofs.Request
import ModuleSystem.Proofs.Walk.Action
import ModuleSystem.Proofs.Walk.Change

/-! # Steps of a session

Whatever a session does is a sequence of small steps, among them the start and the end of each load.
Errors are kept by caches, by exports and by variables, and raised again later, so the steps speak of the
errors that may be around in a session: if nothing else is found in a session to begin with, nothing else
is ever found in it. A proof about everything that can happen to a session is a case analysis on its steps,
however loads are nested. -/

namespace ModuleSystem

open Identifier (canonicalId)
open ModuleSystem.Action (Flow)

/-- What the connections of a host may raise. -/
def Host.Raises (P : Fault → Prop) (host : Host) : Prop :=
  ∀ url replies fault, host.network.routes.get? url = some replies → .failure fault ∈ replies → P fault

/-- What a loader of prepared answers may raise. -/
structure Prepared.Raises (P : Fault → Prop) (answers : Prepared) : Prop where
  resolutions : ∀ id fault, answers.resolutions.get? id = some (.error fault) → P fault
  errors : ∀ id fault, answers.errors.get? id = some fault → P fault

/-- What the prepared answers of a loader may raise, if it has any. -/
def Loader.Raises (P : Fault → Prop) (loader : Loader) : Prop :=
  ∀ answers, loader = .prepared answers → answers.Raises P

/-- What a loader of prepared answers may raise when it resolves an id. -/
def Loader.ResolvesBut (P : Fault → Prop) (loader : Loader) : Prop :=
  ∀ answers id fault, loader = .prepared answers →
    answers.resolutions.get? id = some (.error fault) → P fault

/-- What a builtin may raise. -/
def Builtin.Raises (P : Fault → Prop) (builtin : Builtin) : Prop :=
  ∀ fault, builtin.raises = some fault → P fault

/-- What the connections, loaders and builtins of a world may raise. -/
structure World.Raises (P : Fault → Prop) (world : World) : Prop where
  host : world.host.Raises P
  loaders : ∀ number, (Session.loaderOf world number).Raises P
  builtins : ∀ name builtin, world.builtins.get? name = some builtin → builtin.Raises P

theorem Loader.Raises.resolvesBut {P : Fault → Prop} {loader : Loader} (raises : loader.Raises P) :
    loader.ResolvesBut P := fun answers id fault same => (raises answers same).resolutions id fault

namespace Session

/-- A load of a key has just been started, and its entry is pending with the number of its record. -/
structure Begun (s : Session) (key : String) (number : Nat) : Prop where
  pending : s.cache.get? key = some (.pending (some number))
  latest : s.rest.history.head? = some (.cache (.load key (some number)))

/-- The source of a key that is being loaded has just been fetched. -/
structure Fetched (s : Session) (key : String) (number : Nat) : Prop where
  pending : s.cache.get? key = some (.pending (some number))
  latest : s.rest.history.head? = some (.work .fetch key number)

/-- A record has just been made for a key. -/
structure Fresh (world : World) (key : String) (number : Nat) : Prop where
  newest : world.records.size = number + 1
  id : (world.record number).id = .text key
  exports : ∃ object, (world.record number).exports = .exports object
  loaded : (world.record number).loaded = .bool false
  children : (world.record number).children = []

/-- An outcome is that of a load of an origin that the world offers. -/
def Brings (world : World) (origin : Origin) (outcome : Outcome Raised Value) : Prop :=
  world.Offers origin ∧ ∃ inner number load s, Loads s.rest inner number origin load ∧
    s.rest.Later world ∧ (load s).1 = outcome

/-- A small step of a session, where it is said which errors may be around in which session. -/
inductive SmallStep (around : Session → Raised → Prop) : Session → Session → Prop
  | host {s : Session} {host : Host} (later : s.rest.host.Later host)
      (raises : ∀ Q, s.rest.host.Raises Q → host.Raises Q) :
      SmallStep around s ⟨s.cache, { s.rest with host }⟩
  | mounted {s : Session} {number : Nat} {f : Mounted → Mounted}
      (same : ∀ mounted, (f mounted).loader = mounted.loader) :
      SmallStep around s ⟨s.cache, s.rest.updateMounted number f⟩
  | builtinCalls {s : Session} {builtinCalls : List Datum} :
      SmallStep around s ⟨s.cache, { s.rest with builtinCalls }⟩
  | change {s : Session} {world : World} (change : s.rest.Change (Value.Reference.Among (around s)) world) :
      SmallStep around s ⟨s.cache, world⟩
  | scope {s : Session} {scope : Ordered Value} (holds : scope.Only (around s)) :
      SmallStep around s ⟨s.cache, { s.rest with scope := some scope }⟩
  | main {s : Session} {key : String} {number : Nat} (fresh : Fresh s.rest key number) :
      SmallStep around s ⟨s.cache, { s.rest with main := some ((s.rest.modules.get? key).getD number) }⟩
  | create {s : Session} {id : String} {filename : Option String} {parent : Option Nat} :
      SmallStep around s ⟨s.cache, s.rest.addRecord id filename parent⟩
  | answer {s : Session} {event : Cache.Event Nat Value Raised} (answers : s.cache.Answers event) :
      SmallStep around s (s.update (noteEvent event))
  | lend {s : Session} {key : String} {number : Nat}
      (pending : s.cache.get? key = some (.pending (some number))) :
      SmallStep around s (s.update fun world => world.tell (.lend number (world.record number).exports))
  | start {s : Session} {origin : Origin} {number : Nat} (offers : s.rest.Offers origin)
      (absent : s.cache.get? origin.key = none) (fresh : Fresh s.rest origin.key number) :
      SmallStep around s (Cache.start hooks origin.key (some number) s)
  | fetch {s : Session} {protocol : Option String} {loader number : Nat} {resolved : String}
      (offers : s.rest.Offers (.loaded protocol loader resolved))
      (begun : Begun s (canonicalId protocol resolved) number) :
      SmallStep around s (s.update fun world =>
        world.tell (.work .fetch (canonicalId protocol resolved) number))
  | evaluate {s : Session} {protocol : Option String} {loader number : Nat} {resolved : String}
      {late : Host} {source : Datum} (offers : s.rest.Offers (.loaded protocol loader resolved))
      (later : s.rest.host.Later late)
      (loads : ((loaderOf s.rest loader).load resolved late).1 = .value source)
      (fetched : Fetched s (canonicalId protocol resolved) number) :
      SmallStep around s (s.update fun world => (world.attach (canonicalId protocol resolved) number).tell
        (.work .evaluate (canonicalId protocol resolved) number))
  | make {s : Session} {key : String} {number : Nat}
      (defined : s.rest.builtins.contains key = true) (begun : Begun s key number) :
      SmallStep around s (s.update fun world => (world.attach key number).tell (.work .make key number))
  | enter {s : Session} {key : String} {number : Nat}
      (pending : s.cache.get? key = some (.pending (some number))) :
      SmallStep around s (s.update fun world => world.tell (.enter number (world.record number).exports))
  | finish {s : Session} {key : String} {number : Nat}
      (pending : s.cache.get? key = some (.pending (some number))) :
      SmallStep around s ⟨s.cache, s.rest.updateRecord number fun record =>
        { record with loaded := .bool true }⟩
  | settle {s : Session} {origin : Origin} {number : Nat} {outcome : Outcome Raised Value}
      (pending : s.cache.get? origin.key = some (.pending (some number)))
      (brings : Brings s.rest origin outcome)
      (meets : outcome.Meets (Value.Only (around s))
        (around (Cache.settle hooks origin.key (outcome, s)).2))
      (own : ∀ error, outcome = .error error → error.fault.isRequireError = true)
      (delivers : ∀ value, outcome = .value value → (s.rest.record number).exports = value) :
      SmallStep around s (Cache.settle hooks origin.key (outcome, s)).2

/-- Any number of small steps. -/
def SmallSteps (around : Session → Raised → Prop) : Session → Session → Prop :=
  Relation.ReflTransGen (SmallStep around)

/-- A small step of a session in which errors of a family are around. -/
abbrev Step (P : Fault → Prop) : Session → Session → Prop := SmallStep fun _ raised => P raised.fault

/-- Any number of small steps in which errors of a family are around. -/
abbrev Steps (P : Fault → Prop) : Session → Session → Prop := SmallSteps fun _ raised => P raised.fault

/-- A session is set up: its modules and its values stay, and no other errors are raised than before. -/
structure SetUp (P : Fault → Prop) (s t : Session) : Prop where
  cache : t.cache = s.cache
  heap : t.rest.heap = s.rest.heap
  records : t.rest.records = s.rest.records
  scope : t.rest.scope = s.rest.scope
  history : t.rest.history = s.rest.history
  raises : s.rest.Raises P → t.rest.Raises P

/-- A session leads to another one by steps, with whatever errors, and by setting things up. -/
def Leads : Session → Session → Prop :=
  Relation.ReflTransGen fun s t => Step (fun _ => True) s t ∨ ∃ P, SetUp P s t

instance : Flow Leads where
  refl _ := .refl
  trans := .trans

end Session

namespace World

variable {world : World}

theorem record_addRecord (world : World) (id : String) (filename : Option String)
    (parent : Option Nat) (number : Nat) :
    (world.addRecord id filename parent).record number =
      if number = world.records.size then
        ⟨.text id, filename, parent, .exports world.heap.exports.size, .bool false, [], true, .empty⟩
      else world.record number := by
  unfold addRecord record
  dsimp only [tell]
  rw [Array.getElem?_push]
  split <;> rfl

end World

namespace Session

variable {around : Session → Raised → Prop} {s t : Session}

/-- More errors may be around. -/
theorem SmallStep.mono {wider : Session → Raised → Prop} (step : SmallStep around s t)
    (sub : ∀ s raised, around s raised → wider s raised) : SmallStep wider s t := by
  cases step with
  | host later raises => exact .host later raises
  | mounted same => exact .mounted same
  | builtinCalls => exact .builtinCalls
  | change change => exact .change (change.mono fun _ => Value.Reference.Among.mono (sub s))
  | scope holds => exact .scope fun name value known => (holds name value known).mono (sub s)
  | main fresh => exact .main fresh
  | create => exact .create
  | answer answers => exact .answer answers
  | lend pending => exact .lend pending
  | start offers absent fresh => exact .start offers absent fresh
  | fetch offers begun => exact .fetch offers begun
  | evaluate offers later loads fetched => exact .evaluate offers later loads fetched
  | make defined begun => exact .make defined begun
  | enter pending => exact .enter pending
  | finish pending => exact .finish pending
  | @settle origin number outcome pending brings meets own delivers =>
    refine .settle pending brings ?_ own delivers
    cases outcome with
    | value value => exact Value.Only.mono meets (sub s)
    | error | interruption => exact sub _ _ meets

theorem SmallSteps.mono {wider : Session → Raised → Prop} (steps : SmallSteps around s t)
    (sub : ∀ s raised, around s raised → wider s raised) : SmallSteps wider s t :=
  Relation.ReflTransGen.mono (fun _ _ step => step.mono sub) _ _ steps

theorem SmallStep.later (step : SmallStep around s t) : s.rest.Later t.rest := by
  cases step with
  | host later => exact (World.Step.host later).later
  | mounted same => exact (World.Step.mounted same).later
  | builtinCalls | scope | main => exact ⟨.refl _, rfl, rfl, fun _ => rfl, Nat.le_refl _⟩
  | change change => exact change.step.later
  | create => exact World.Step.create.later
  | finish => exact World.updateRecord_later ..
  | answer => exact World.noteEvent_later ..
  | lend | fetch | enter => exact World.tell_later ..
  | evaluate | make => exact (World.attach_later ..).trans (World.tell_later ..)
  | start => exact Run.start_later ..
  | settle => exact Run.settle_later ..

theorem SmallSteps.later (steps : SmallSteps around s t) : s.rest.Later t.rest := by
  induction steps with
  | refl => exact .refl _
  | tail _ step ih => exact ih.trans step.later

/-! ## What steps change -/

/-- A step starts a load, settles a key, or leaves the cache as it is. -/
theorem SmallStep.cache_cases (step : SmallStep around s t) :
    t.cache = s.cache ∨
    (∃ origin number, s.rest.Offers origin ∧ s.cache.get? origin.key = none ∧
      t = Cache.start hooks origin.key (some number) s) ∨
    ∃ origin number outcome, s.cache.get? origin.key = some (.pending (some number)) ∧
      Brings s.rest origin outcome ∧ t = (Cache.settle hooks origin.key (outcome, s)).2 := by
  cases step with
  | start offers absent => exact .inr (.inl ⟨_, _, offers, absent, rfl⟩)
  | settle pending brings => exact .inr (.inr ⟨_, _, _, pending, brings, rfl⟩)
  | _ => exact .inl rfl

/-- There is a reason for the work that is done in a session: it is the next part of a load that has been
started for something that the session offers. -/
inductive Due (s : Session) : Work → String → Nat → Prop
  | fetch {protocol : Option String} {loader number : Nat} {resolved : String}
      (offers : s.rest.Offers (.loaded protocol loader resolved))
      (begun : Begun s (canonicalId protocol resolved) number) :
      Due s .fetch (canonicalId protocol resolved) number
  | evaluate {protocol : Option String} {loader number : Nat} {resolved : String} {late : Host}
      {source : Datum} (offers : s.rest.Offers (.loaded protocol loader resolved))
      (later : s.rest.host.Later late)
      (loads : ((loaderOf s.rest loader).load resolved late).1 = .value source)
      (fetched : Fetched s (canonicalId protocol resolved) number) :
      Due s .evaluate (canonicalId protocol resolved) number
  | make {key : String} {number : Nat} (defined : s.rest.builtins.contains key = true)
      (begun : Begun s key number) : Due s .make key number

/-- A step adds at most one happening to the history, and work only where it is due. -/
theorem SmallStep.history_cases (step : SmallStep around s t) :
    t.rest.history = s.rest.history ∨
    ∃ happening, t.rest.history = happening :: s.rest.history ∧
      ∀ work key number, happening = .work work key number → Due s work key number := by
  cases step with
  | create | lend | enter => exact .inr ⟨_, rfl, by rintro _ _ _ ⟨⟩⟩
  | change change =>
    refine change.history_cases.imp_right fun ⟨happening, told, scripted⟩ => ⟨happening, told, ?_⟩
    rintro work key number rfl
    cases scripted
  | answer | start => exact .inr ⟨_, (notes_noteEvent ..).history, by rintro _ _ _ ⟨⟩⟩
  | settle =>
    obtain ⟨event, notes, _⟩ := notes_settle _ _ s
    exact .inr ⟨_, notes.history, by rintro _ _ _ ⟨⟩⟩
  | fetch offers begun =>
    exact .inr ⟨_, rfl, by rintro _ _ _ ⟨⟩; exact .fetch offers begun⟩
  | evaluate offers later loads fetched =>
    refine .inr ⟨_, congrArg (_ :: ·) (history_attach _ _ _), ?_⟩
    rintro _ _ _ ⟨⟩
    exact .evaluate offers later loads fetched
  | make defined begun =>
    refine .inr ⟨_, congrArg (_ :: ·) (history_attach _ _ _), ?_⟩
    rintro _ _ _ ⟨⟩
    exact .make defined begun
  | _ => exact .inl rfl

end Session

end ModuleSystem
