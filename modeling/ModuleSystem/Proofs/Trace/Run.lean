import ModuleSystem.Proofs.Trace.Basic

/-! # The history of a run

Every run adds a lawful history to its world, and what the run leads to can be replayed from it. The
entry that a load has made is still there when the load ends, so each load settles the entry that is
its own. -/

namespace ModuleSystem

namespace Session

/-- Between two sessions some history is told, which is lawful and leads from one to the other. -/
structure Tells (loadings : List Loading) (s t : Session) (events : List Happening) : Prop where
  history : t.rest.history = events ++ s.rest.history
  snapshot : t.snapshot loadings = (s.snapshot loadings).replay events
  lawful : (s.snapshot loadings).Lawful s.rest.HasSource events

variable {loadings : List Loading} {s t u : Session} {events : List Happening}

theorem exportsOf_snapshot (s : Session) (loadings : List Loading) (number : Nat) :
    (s.snapshot loadings).exportsOf number = (s.rest.record number).exports := by
  simp only [Snapshot.exportsOf, snapshot, World.record, List.getElem?_map, Array.getElem?_toList]
  cases s.rest.records[number]? <;> rfl

namespace Tells

theorem refl (loadings : List Loading) (s : Session) : Tells loadings s s [] := ⟨rfl, rfl, trivial⟩

/-- One more thing that is told. -/
theorem next {happening : Happening} (tells : Tells loadings s t events)
    (later : s.rest.Later t.rest) (history : u.rest.history = happening :: t.rest.history)
    (snapshot : u.snapshot loadings = (t.snapshot loadings).next happening)
    (allowed : (t.snapshot loadings).Allows t.rest.HasSource happening) :
    Tells loadings s u (happening :: events) := by
  refine ⟨?_, ?_, tells.lawful, ?_⟩
  · rw [history, tells.history, List.cons_append]
  · rw [snapshot, tells.snapshot, Snapshot.replay]
  · rw [← tells.snapshot]
    exact allowed.mono fun key => (later.hasSource_iff key).mp

/-- Nothing is told. -/
theorem silent (tells : Tells loadings s t events) (history : u.rest.history = t.rest.history)
    (snapshot : u.snapshot loadings = t.snapshot loadings) : Tells loadings s u events :=
  ⟨history.trans tells.history, snapshot.trans tells.snapshot, tells.lawful⟩

end Tells

theorem snapshot_updateRecord (s : Session) (number : Nat) {f : ModuleRecord → ModuleRecord}
    (same : ∀ record, (f record).exports = record.exports) :
    snapshot ⟨s.cache, s.rest.updateRecord number f⟩ loadings = s.snapshot loadings := by
  simp only [snapshot, World.updateRecord, Snapshot.mk.injEq, true_and]
  refine List.ext_getElem? fun other => ?_
  simp only [List.getElem?_map, Array.getElem?_toList, Array.getElem?_modify]
  split
  · rw [Option.map_map]
    exact congrArg (fun f => Option.map f _) (funext same)
  · rfl

theorem snapshot_assignExports (s : Session) (number : Nat) (exports : Value) :
    snapshot ⟨s.cache, s.rest.assignExports number exports⟩ loadings =
      (s.snapshot loadings).next (.assign number exports) := by
  simp only [snapshot, World.assignExports, World.updateRecord, World.tell, Snapshot.next,
    Snapshot.mk.injEq, true_and]
  refine List.ext_getElem? fun other => ?_
  simp only [List.getElem?_map, Array.getElem?_toList, Array.getElem?_modify, List.getElem?_set,
    List.length_map, Array.length_toList]
  split
  · rename_i same
    subst same
    cases known : s.rest.records[number]? with
    | none => simp [Array.getElem?_eq_none_iff.mp known]
    | some record => simp [(Array.getElem?_eq_some_iff.mp known).1]
  · rfl

theorem snapshot_attach (s : Session) (key : String) (number : Nat) :
    snapshot ⟨s.cache, s.rest.attach key number⟩ loadings = s.snapshot loadings := by
  unfold World.attach
  dsimp only
  split
  · exact snapshot_updateRecord ⟨s.cache, _⟩ _ fun _ => rfl
  · rfl

/-- A small step tells of a new record or of what is assigned to one, or it tells nothing. -/
theorem Tells.step {world : World} (tells : Tells loadings s t events) (later : s.rest.Later t.rest)
    (step : t.rest.Step world) : ∃ events, Tells loadings s ⟨t.cache, world⟩ events := by
  cases step with
  | host | heap | mounted | builtinCalls | scope | main => exact ⟨_, tells.silent rfl rfl⟩
  | create =>
    refine ⟨_, tells.next later rfl ?_ trivial⟩
    simp [Session.snapshot, World.addRecord, World.tell, Snapshot.next]
  | assign => exact ⟨_, tells.next later rfl (snapshot_assignExports t ..) trivial⟩
  | rename | flag =>
    exact ⟨_, tells.next later rfl (snapshot_updateRecord t _ fun _ => rfl) trivial⟩
  | @alter number name value =>
    have exports (record : ModuleRecord) := record.exports_assign name value
    exact ⟨_, tells.next later rfl (snapshot_updateRecord t number exports) trivial⟩
  | make => exact ⟨_, tells.next later rfl rfl trivial⟩
  | label same => exact ⟨_, tells.silent rfl (snapshot_updateRecord t _ same)⟩

theorem Tells.answer {event : Cache.Event Nat Value Raised} (tells : Tells loadings s t events)
    (later : s.rest.Later t.rest) (answers : t.cache.Answers event) :
    Tells loadings s (t.update (noteEvent event)) (.cache event :: events) := by
  have seen : Session.snapshot (t.update (noteEvent event)) loadings = t.snapshot loadings := by
    simp only [Session.snapshot, Cache.Held.update, (notes_noteEvent event t.rest).records]
  refine tells.next later (notes_answer ..).history (seen.trans ?_) ?_
  · cases answers <;> rfl
  · cases answers with
    | hit known => exact ⟨_, known⟩
    | failureHit known => exact ⟨_, known⟩
    | cycle known => exact known
    | deadEnd known => exact known

/-- The history of a load until its end, seen from outside: what was told before, the start of the load,
and what is told during the load. -/
theorem Tells.inside {key : String} {number object : Nat} {during : List Happening}
    (tells : Tells loadings s t events) (later : s.rest.Later t.rest)
    (absent : t.cache.get? key = none)
    (sourced : ∀ loading ∈ loadings.head?, t.rest.HasSource loading.key)
    (created : (t.rest.records[number]?).map ModuleRecord.exports = some (.exports object))
    (body : Tells (⟨key, number⟩ :: loadings) (Cache.start hooks key (some number) t) u during) :
    u.rest.history = (during ++ .cache (.load key (some number)) :: events) ++ s.rest.history ∧
      u.snapshot (⟨key, number⟩ :: loadings) =
        (s.snapshot loadings).replay (during ++ .cache (.load key (some number)) :: events) ∧
      (s.snapshot loadings).Lawful s.rest.HasSource
        (during ++ .cache (.load key (some number)) :: events) := by
  have started : Session.snapshot (Cache.start hooks key (some number) t)
      (⟨key, number⟩ :: loadings) = (t.snapshot loadings).next (.cache (.load key (some number))) := rfl
  have begun := t.rest.noteEvent_later (.load key (some number))
  refine ⟨?_, ?_, ?_⟩
  · rw [body.history, List.append_assoc, List.cons_append, ← tells.history]
    rfl
  · rw [body.snapshot, started, tells.snapshot, Snapshot.replay_append, Snapshot.replay]
  · rw [Snapshot.lawful_append]
    refine ⟨⟨tells.lawful, ?_⟩, ?_⟩
    · rw [← tells.snapshot]
      refine Snapshot.Allows.mono (fun key => (later.hasSource_iff key).mp)
        ⟨absent, sourced, number, object, rfl, ?_⟩
      simpa [Session.snapshot] using created
    · rw [Snapshot.replay, ← tells.snapshot, ← started]
      exact body.lawful.mono fun key => ((later.trans begun).hasSource_iff key).mp

/-- The history of a load: its start, what is told during the load, and its end. -/
theorem Tells.load {key : String} {number object : Nat} {during : List Happening}
    {outcome : Outcome Raised Value} (tells : Tells loadings s t events)
    (later : s.rest.Later t.rest) (absent : t.cache.get? key = none)
    (sourced : ∀ loading ∈ loadings.head?, t.rest.HasSource loading.key)
    (created : (t.rest.records[number]?).map ModuleRecord.exports = some (.exports object))
    (body : Tells (⟨key, number⟩ :: loadings) (Cache.start hooks key (some number) t) u during)
    (pending : u.cache.get? key = some (.pending (some number)))
    (delivers : ∀ value, outcome = .value value → (u.rest.record number).exports = value)
    (fair : outcome.Fair u) :
    ∃ events, Tells loadings s (Cache.settle hooks key (outcome, u)).2 events := by
  obtain ⟨told, seen, lawful⟩ := tells.inside later absent sourced created body
  have loads : Snapshot.Loads (Session.snapshot u (⟨key, number⟩ :: loadings)) key number :=
    ⟨rfl, pending⟩
  have settles (happening : Happening) {after : Session}
      (history : after.rest.history = happening :: u.rest.history)
      (next : Session.snapshot after loadings =
        (Session.snapshot u (⟨key, number⟩ :: loadings)).next happening)
      (allowed : (Session.snapshot u (⟨key, number⟩ :: loadings)).Allows s.rest.HasSource happening) :
      ∃ events, Tells loadings s after events := by
    refine ⟨happening :: (during ++ .cache (.load key (some number)) :: events), ?_, ?_, lawful, ?_⟩
    · rw [history, told, List.cons_append]
    · rw [next, seen, Snapshot.replay]
    · rw [← seen]
      exact allowed
  cases outcome with
  | value value =>
    exact settles (.cache (.resolve key value)) rfl rfl
      ⟨number, loads, (exportsOf_snapshot ..).trans (delivers value rfl)⟩
  | error error =>
    exact settles (.cache (.fail key error)) rfl rfl
      ⟨⟨number, loads⟩, fair.imp_left Bool.eq_false_iff.mpr⟩
  | interruption error =>
    exact settles (.cache (.interrupt key error)) rfl rfl ⟨⟨number, loads⟩, fair⟩

/-- Every run tells a lawful history that leads to its end. -/
theorem Run.tells (run : Run loadings s t) : ∃ events, Tells loadings s t events := by
  induction run with
  | refl => exact ⟨[], .refl ..⟩
  | step run step ih =>
    obtain ⟨events, tells⟩ := ih
    exact tells.step run.later step
  | answer run answers ih =>
    obtain ⟨events, tells⟩ := ih
    exact ⟨_, tells.answer run.later answers⟩
  | @lend _ _ t key number run pending ih =>
    obtain ⟨events, tells⟩ := ih
    exact ⟨_, tells.next run.later rfl rfl ⟨⟨key, pending⟩, exportsOf_snapshot ..⟩⟩
  | work run pending ih =>
    obtain ⟨events, tells⟩ := ih
    exact ⟨_, tells.next run.later rfl rfl ⟨rfl, pending⟩⟩
  | attach run ih =>
    obtain ⟨events, tells⟩ := ih
    exact ⟨_, tells.silent (history_attach ..) (snapshot_attach _ _ _)⟩
  | enter run pending ih =>
    obtain ⟨events, tells⟩ := ih
    exact ⟨_, tells.next run.later rfl rfl ⟨⟨_, rfl, pending⟩, exportsOf_snapshot ..⟩⟩
  | @load _ _ t _ key number _ _ run absent sourced created body delivers fair ih ihBody =>
    obtain ⟨events, tells⟩ := ih
    obtain ⟨during, inside⟩ := ihBody
    have pending := body.keeps_entry (t.cache.get?_set_self key (.pending (some number)))
    exact tells.load run.later absent sourced created inside pending delivers fair

end Session

end ModuleSystem
