import ModuleSystem.Proofs.Step.Basic

/-! # What is around in a session

Errors that have been raised are kept by objects, by variables and by the cache, and connections, loaders
and builtins raise more of them. A watch says which errors may be around in which session. A session is
clean if no others are: then no step brings in any other, provided that an error that may be around stays
one as the session goes on. A watch may also make sure that whatever keeps the record of a module keeps one
that has been made. -/

namespace ModuleSystem

open ModuleSystem.Action (Flow)
open Value (Reference)

/-- What is watched while a session goes on: what it gets to, which errors may be around in which session,
which ones its surroundings may raise, which ones its loaders may raise when they resolve an id, who may
answer the requests of modules, and whether it is tracked that records have been made. -/
structure Watch where
  visits : Session → Prop
  around : Session → Raised → Prop
  outside : Fault → Prop
  unresolved : Fault → Prop
  answers : Script.Requirer → Prop
  tracks : Prop

/-- What may be kept in a session: the errors that may be around, and records that have been made. -/
def Watch.near (w : Watch) (s : Session) : Reference → Prop
  | .error raised => w.around s raised
  | .record number => w.tracks → number < s.rest.records.size

/-- Whatever a session holds may be around, and whatever its surroundings raise is allowed for. What its
cache raises is of the system itself, and whatever is pending has a part. -/
structure Watch.Clean (w : Watch) (s : Session) : Prop where
  visited : w.visits s
  holds : s.rest.Within (w.near s)
  raises : s.rest.Raises w.outside
  resolves : ∀ number, (Session.loaderOf s.rest number).ResolvesBut w.unresolved
  values : ∀ key value, s.cache.get? key = some (.resolved value) → value.Within (w.near s)
  errors : ∀ key error, s.cache.get? key = some (.failed error) →
    w.around s error ∧ error.fault.isRequireError = true
  parts : ∀ key, s.cache.get? key ≠ some (.pending none)
  pending : ∀ key number, s.cache.get? key = some (.pending (some number)) → w.near s (.record number)

namespace World.Within

variable {Q R : Reference → Prop} {world : World}

theorem attach (holds : world.Within Q) (key : String) {number : Nat} (own : Q (.record number)) :
    (world.attach key number).Within Q := by
  have entered : World.Within Q { world with modules := world.modules.set key number } :=
    { holds with
      modules := fun other found known => by
        rw [Ordered.get?_set] at known
        split at known
        · cases known
          exact own
        · exact holds.modules other found known }
  unfold World.attach
  dsimp only
  split
  · refine entered.updateRecord _ fun record old => { old with children := fun child member => ?_ }
    rcases List.mem_append.mp member with before | here
    · exact old.children child before
    · cases List.mem_singleton.mp here
      exact own
  · exact entered

theorem noteEvent (holds : world.Within Q) (event : Cache.Event Nat Value Raised) :
    (Session.noteEvent event world).Within Q := by
  unfold Session.noteEvent
  dsimp only
  split
  · exact { holds with }
  · exact { holds with }

theorem addRecord (holds : world.Within Q) (id : String) (filename : Option String)
    {parent : Option Nat} (asking : ∀ number, parent = some number → Q (.record number)) :
    (world.addRecord id filename parent).Within Q :=
  { holds with
    heap := holds.heap.push Ordered.within_empty
    records := fun number => by
      rw [record_addRecord]
      split
      · exact ⟨Value.within_scalar _, Value.within_exports _, Value.within_scalar _,
          Ordered.within_empty, asking, by simp⟩
      · exact holds.records number }

theorem settle {key : String} {outcome : Outcome Raised Value} {s : Session} (holds : s.rest.Within Q) :
    (Cache.settle Session.hooks key (outcome, s)).2.rest.Within Q := by
  cases outcome with
  | value value => exact holds.noteEvent (.resolve key value)
  | error error => exact holds.noteEvent (.fail key error)
  | interruption error => exact holds.noteEvent (.interrupt key error)

end World.Within

theorem Host.Raises.of_network {P : Fault → Prop} {before after : Host} (raises : before.Raises P)
    (same : after.network = before.network) : after.Raises P := by
  unfold Host.Raises
  rw [same]
  exact raises

theorem World.Later.raises {P : Fault → Prop} {world after : World} (later : world.Later after)
    (raises : world.Raises P) (host : after.host.Raises P) : after.Raises P := by
  refine ⟨host, fun number => ?_, fun name builtin known => ?_⟩
  · rw [later.loaderOf]
    exact raises.loaders number
  · rw [later.builtins] at known
    exact raises.builtins name builtin known

namespace Session

variable {around : Session → Raised → Prop} {P : Fault → Prop} {Q : Reference → Prop} {s t : Session}

theorem network_noteEvent (event : Cache.Event Nat Value Raised) (world : World) :
    (noteEvent event world).host.network = world.host.network := by
  unfold noteEvent
  dsimp only
  split
  · rfl
  · rfl

theorem host_attach (world : World) (key : String) (number : Nat) :
    (world.attach key number).host = world.host := by
  unfold World.attach
  dsimp only
  split
  · rfl
  · rfl

theorem network_settle (key : String) (outcome : Outcome Raised Value) (s : Session) :
    (Cache.settle hooks key (outcome, s)).2.rest.host.network = s.rest.host.network := by
  cases outcome with
  | value value => exact network_noteEvent (.resolve key value) s.rest
  | error error => exact network_noteEvent (.fail key error) s.rest
  | interruption error => exact network_noteEvent (.interrupt key error) s.rest

namespace SmallStep

/-- A step adds nothing to what connections raise. -/
theorem raises (step : SmallStep around s t) (raises : s.rest.host.Raises P) :
    t.rest.host.Raises P := by
  cases step with
  | host _ adds => exact adds P raises
  | change change => exact raises.of_network (congrArg Host.network change.host_eq)
  | answer => exact raises.of_network (network_noteEvent _ _)
  | start => exact raises.of_network (network_noteEvent _ _)
  | settle => exact raises.of_network (network_settle _ _ _)
  | evaluate | make => exact raises.of_network (congrArg Host.network (host_attach _ _ _))
  | _ => exact raises

/-- A step brings in no errors but those that may be around. -/
theorem within (step : SmallStep around s t) (sub : ∀ raised, around s raised → Q (.error raised))
    (all : ∀ number, Q (.record number)) (holds : s.rest.Within Q) : t.rest.Within Q := by
  cases step with
  | host | mounted | builtinCalls => exact { holds with }
  | main => exact { holds with main := fun _ _ => all _ }
  | change change => exact (change.mono fun
    | .error raised, around => sub raised around
    | .record number, _ => all number).within holds
  | scope new =>
    refine { holds with scope := fun _ same => ?_ }
    cases same
    exact fun name value known => ((new name value known).mono sub).within all
  | create => exact holds.addRecord _ _ fun _ _ => all _
  | answer => exact holds.noteEvent _
  | start => exact holds.noteEvent (.load _ _)
  | lend | fetch | enter => exact holds.tell _
  | evaluate | make => exact (holds.attach _ (all _)).tell _
  | finish => exact holds.updateRecord _ fun _ old => { old with loaded := Value.within_scalar _ }
  | settle => exact holds.settle

/-- Every entry after a step was there before, or it is that of a load which the step starts or
settles. -/
theorem entry (step : SmallStep around s t) {key : String} {entry : Cache.Entry Nat Value Raised}
    (known : t.cache.get? key = some entry) :
    s.cache.get? key = some entry ∨ (∃ number, entry = .pending (some number)) ∨
    ∃ outcome, outcome.Meets (Value.Only (around s)) (around t) ∧
      (∀ error, outcome = .error error → error.fault.isRequireError = true) ∧
      Cache.left? outcome = some entry := by
  cases step with
  | @start origin number =>
    rw [Cache.get?_start] at known
    split at known
    · cases known
      exact .inr (.inl ⟨number, rfl⟩)
    · exact .inl known
  | settle _ _ meets own =>
    rw [Cache.get?_settle] at known
    split at known
    · exact .inr (.inr ⟨_, meets, own, known⟩)
    · exact .inl known
  | _ => exact .inl known

end SmallStep

/-- An entry that is not pending stays as it is. -/
theorem SmallStep.settled (step : SmallStep around s t) {key : String}
    {entry : Cache.Entry Nat Value Raised} (known : s.cache.get? key = some entry)
    (ended : ∀ part, entry ≠ .pending part) : t.cache.get? key = some entry := by
  rcases step.cache_cases with same | ⟨origin, number, _, absent, rfl⟩ |
    ⟨origin, number, outcome, pending, _, rfl⟩
  · rw [same]
    exact known
  · rw [Cache.get?_start, if_neg (Ordered.ne_of_get? absent known)]
    exact known
  · have other : key ≠ origin.key := by
      rintro rfl
      rw [pending] at known
      cases known
      exact ended _ rfl
    rw [Cache.get?_settle, if_neg other]
    exact known

theorem SmallSteps.raises (steps : SmallSteps around s t) {Q : Fault → Prop} (raises : s.rest.host.Raises Q) :
    t.rest.host.Raises Q := by
  induction steps with
  | refl => exact raises
  | tail _ step ih => exact step.raises ih

end Session

end ModuleSystem
