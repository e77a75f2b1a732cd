import ModuleSystem.Cache.Plan
import ModuleSystem.Proofs.Task
import ModuleSystem.Proofs.Trace.Entry
import ModuleSystem.Proofs.Trace.Run

/-! # Pending entries

A load leaves of the cache around it everything as it found it: the entries that were there before, and
that nothing else is pending. However deep loads are nested and however they end, this holds of each of
them, so it holds of every request. Hence the entry that a load settles in the end is the one that it
made in the beginning, and an interruption takes back exactly the loads that it cuts short. -/

namespace ModuleSystem

namespace Cache

variable {π α ε ρ : Type}

open ModuleSystem.Action (Moves Flow)

/-- What a cache keeps: the same keys are pending, with the same parts, all entries that were there are
still there, and their keys come first, in their order. -/
structure Frame (before after : Cache π α ε) : Prop where
  pending : ∀ key part,
    after.get? key = some (.pending part) ↔ before.get? key = some (.pending part)
  kept : ∀ key entry, before.get? key = some entry → after.get? key = some entry
  keys : before.keys <+: after.keys

namespace Frame

theorem refl (cache : Cache π α ε) : Frame cache cache :=
  ⟨fun _ _ => .rfl, fun _ _ known => known, List.prefix_rfl⟩

theorem trans {first second third : Cache π α ε} (early : Frame first second)
    (late : Frame second third) : Frame first third :=
  ⟨fun key part => (late.pending key part).trans (early.pending key part),
    fun key entry known => late.kept key entry (early.kept key entry known),
    early.keys.trans late.keys⟩

instance : Flow (Frame (π := π) (α := α) (ε := ε)) where
  refl := refl
  trans := trans

/-- A load keeps the cache around it if what happens during the load keeps the cache with the entry of
the load, and the entry is no longer pending in the end. -/
theorem close {key : String} {part : Option π} {before inner after : Cache π α ε}
    (absent : before.get? key = none) (body : Frame (before.set key (.pending part)) inner)
    (others : ∀ other ≠ key, after.get? other = inner.get? other)
    (settled : ∀ part, after.get? key ≠ some (.pending part))
    (keys : inner.keys.filter (· ≠ key) <+: after.keys ∨ after.keys = inner.keys) :
    Frame before after := by
  have fresh : key ∉ before.keys := (before.get?_eq_none_iff key).mp absent
  have begun : before.keys ++ [key] <+: inner.keys := by
    have start := body.keys
    rwa [Ordered.keys_set_of_notMem fresh] at start
  refine ⟨fun other part => ?_, fun other entry known => ?_, ?_⟩
  · by_cases same : other = key
    · rw [same, absent]
      exact iff_of_false (settled part) (by simp)
    · rw [others other same, body.pending, Ordered.get?_set, if_neg same]
  · have different : other ≠ key := Ordered.ne_of_get? absent known
    rw [others other different]
    exact body.kept other entry ((Ordered.get?_set ..).trans ((if_neg different).trans known))
  · rcases keys with filtered | same
    · refine .trans ?_ filtered
      obtain ⟨more, split⟩ := begun
      refine ⟨more.filter (· ≠ key), ?_⟩
      rw [← split, List.filter_append, List.filter_append]
      have whole : before.keys.filter (· ≠ key) = before.keys :=
        List.filter_eq_self.mpr fun other member =>
          decide_eq_true fun same => fresh (same ▸ member)
      rw [whole]
      simp
    · rw [same]
      exact (List.prefix_append ..).trans begun

end Frame

section

variable [Interrupting ε]

/-- Actions that keep the cache. -/
abbrev Keeps {β : Type} (x : Action (Held π α ε ρ) ε β) : Prop := Moves (InvImage Frame Held.cache) x

/-- Surroundings that answer a request for a pending key without changing the cache. -/
structure Hooks.Steady (hooks : Hooks π α ε ρ) : Prop where
  readPart : ∀ part, Keeps (hooks.readPart part)
  noPart : ∀ key, Keeps (hooks.noPart key)

end

/-- The end of a load, whichever it is. -/
theorem settle_frame (hooks : Hooks π α ε ρ) {key : String} {part : Option π} {before : Cache π α ε}
    (outcome : Outcome ε α) (held : Held π α ε ρ) (absent : before.get? key = none)
    (body : Frame (before.set key (.pending part)) held.cache) :
    Frame before (settle hooks key (outcome, held)).2.cache := by
  have pending := body.kept key (.pending part) (Ordered.get?_set_self ..)
  have known : key ∈ held.cache.keys := Ordered.mem_keys_of_get? pending
  refine body.close absent (fun other ne => ?_) (fun part same => ?_) ?_
  · rw [get?_settle, if_neg ne]
  · rw [get?_settle, if_pos rfl] at same
    cases outcome <;> cases same
  · cases outcome with
    | value value => exact .inr (Ordered.keys_set_of_mem known)
    | error error => exact .inr (Ordered.keys_set_of_mem known)
    | interruption error =>
      exact .inl ⟨[], (List.append_nil _).trans (Ordered.keys_erase ..).symm⟩

/-- A request keeps the cache if a load does wherever it starts. -/
theorem getOrLoad_keeps [Interrupting ε] {hooks : Hooks π α ε ρ} (steady : hooks.Steady)
    (key : String) (part : Option π) {load : Action (Held π α ε ρ) ε α} (keeps : Keeps load) :
    Keeps (getOrLoad hooks key part load) := by
  intro held
  cases known : held.cache.get? key with
  | none =>
    obtain ⟨_, body, fair⟩ := keeps (start hooks key part held)
    refine ⟨rfl, ?_, ?_⟩
    · rw [getOrLoad_of_absent _ _ _ known]
      exact settle_frame hooks _ _ known body
    · rw [getOrLoad_of_absent _ _ _ known, settle_fst]
      generalize load (start hooks key part held) = ended at fair
      obtain ⟨outcome, last⟩ := ended
      cases outcome with
      | value => trivial
      | error error => exact .inr ⟨key, last.cache.get?_set_self key _⟩
      | interruption => exact fair
  | some entry =>
    cases entry with
    | resolved value =>
      have ran := getOrLoad_of_resolved hooks part load known
      exact .of_ran ran ran (.refl _) trivial
    | failed error =>
      have ran := getOrLoad_of_failed hooks part load known
      exact .of_ran ran ran (.refl _) (.inr ⟨key, known⟩)
    | pending lent =>
      cases lent with
      | none =>
        have refused := getOrLoad_of_partless hooks part load known
        obtain ⟨_, moved, fair⟩ := steady.noPart key (held.update (hooks.note (.deadEnd key)))
        exact .of_ran refused refused moved fair
      | some lent =>
        have read := getOrLoad_of_pending hooks part load known
        obtain ⟨_, moved, fair⟩ := steady.readPart lent (held.update (hooks.note (.cycle key lent)))
        exact .of_ran read read moved fair

namespace Plan

theorem trace_keeps (line : String) : Keeps (trace line) := .modify fun held => .refl held.cache

theorem raise_keeps (fault : Fault) : Keeps (β := β) (raise fault) := by
  intro held
  by_cases interrupts : fault.isInterruption = true
  · have ran : raise (α := β) fault held = (.interruption ⟨held.rest.made, fault⟩,
        held.update fun rest => { rest with made := rest.made + 1 }) := if_pos interrupts
    exact .of_ran ran ran (.refl _) interrupts
  · have ran : raise (α := β) fault held = (.error ⟨held.rest.made, fault⟩,
        held.update fun rest => { rest with made := rest.made + 1 }) := if_neg interrupts
    exact .of_ran ran ran (.refl _) (.inl interrupts)

theorem steady : hooks.Steady where
  readPart part := by
    refine .bind (trace_keeps _) fun _ => ?_
    cases part.2 with
    | value value => exact .pure value
    | error fault => exact raise_keeps fault
  noPart key := raise_keeps (.cyclicRequire (.text key))

theorem stateOf_keeps (key : String) : Keeps (stateOf key) := .gets _

theorem caught_keeps (raised : Raised) (key : String) : Keeps (caught raised key) :=
  .bind (stateOf_keeps key) fun _ => .pure _

mutual

/-- Whatever a plan requests, it keeps the cache. -/
theorem run_keeps : ∀ plan : Plan, Keeps (run plan)
  | .mk first raises _ _ => by
    refine .bind (runAll_keeps first) fun collected => ?_
    split
    · exact raise_keeps _
    · exact .pure _

theorem runRequest_keeps : ∀ request : Request, Keeps (runRequest request)
  | .mk key plan _ _ =>
    getOrLoad_keeps steady key _ (.bind (trace_keeps _) fun _ => run_keeps plan)

theorem runAll_keeps : ∀ requests : List Request, Keeps (runAll requests)
  | [] => .done _
  | .mk key plan preview catches :: rest => by
    refine .attempt_bind (runRequest_keeps (.mk key plan preview catches)) fun outcome => ?_
    have onward (collected : List Datum) :
        Keeps (do let more ← runAll rest; return collected ++ more) :=
      .bind (runAll_keeps rest) fun _ => .pure _
    cases outcome with
    | value value =>
      exact (Moves.bind (stateOf_keeps key) fun _ => .bind (.pure _) onward).agree
    | error raised =>
      cases catches with
      | true => exact (Moves.bind (caught_keeps raised key) onward).agree
      | false => exact fun held fair => .bind ⟨rfl, .refl _, fair⟩ fun _ _ failed => by cases failed
    | interruption raised =>
      cases catches with
      | true => exact (Moves.bind (caught_keeps raised key) onward).agree
      | false => exact fun held interrupts => Moves.bind (.interrupt interrupts) onward held

end

theorem get?_runRequest (request : Request) {held : PlanState}
    (absent : held.cache.get? request.key = none) :
    (runRequest request held).2.cache.get? request.key = left? (runRequest request held).1 := by
  cases request with
  | mk key plan preview catches => exact get?_getOrLoad hooks _ _ absent

end Plan

end Cache

namespace Session

variable {loadings : List Loading} {s t : Session}

/-- Every run keeps the cache. -/
theorem Run.frame (run : Run loadings s t) : Cache.Frame s.cache t.cache := by
  induction run with
  | refl => exact .refl _
  | step _ _ ih => exact ih
  | answer _ _ ih => exact ih
  | lend _ _ ih => exact ih
  | work _ _ ih => exact ih
  | attach _ ih => exact ih
  | enter _ _ ih => exact ih
  | load _ absent _ _ _ _ _ ih ihBody => exact ih.trans (Cache.settle_frame hooks _ _ absent ihBody)

/-- What a history says of the entries between two sessions. The moments of the history are the
snapshots that its earlier parts lead to. -/
structure Restores (s t : Session) (events : List Happening) : Prop where
  /-- The cache is kept. -/
  frame : Cache.Frame s.cache t.cache
  /-- Only keys without an entry are loaded. -/
  fresh : ∀ key ∈ started events, s.cache.get? key = none
  /-- Exactly those whose last load was cut short are absent again. -/
  absent : ∀ key ∈ started events, t.cache.get? key = none ↔ Snapshot.EndsCutShort key events
  /-- Whatever is settled at some moment stays. -/
  settled : ∀ later earlier, events = later ++ earlier → ∀ key entry, entry.state ≠ .pending →
    ((s.snapshot []).replay earlier).cache.get? key = some entry → t.cache.get? key = some entry
  /-- The keys that are there at some moment and are not cut short later stay in front. -/
  order : ∀ later earlier, events = later ++ earlier →
    ((s.snapshot []).replay earlier).cache.keys.filter (· ∉ cutShort later) <+: t.cache.keys
  /-- The entry of a key that is being loaded is the one that this load has made. -/
  own : ∀ later earlier, events = later ++ earlier →
    ∀ loading ∈ ((s.snapshot []).replay earlier).active,
      ((s.snapshot []).replay earlier).cache.get? loading.key = some (.pending (some loading.number))
  /-- Entries accept the value of their load. -/
  resolves : ∀ later earlier key value, events = later ++ .cache (.resolve key value) :: earlier →
    ∃ entry, ((s.snapshot []).replay earlier).cache.get? key = some entry ∧
      entry.resolve value = .ok (.resolved value)
  /-- Entries accept the error of their load. -/
  fails : ∀ later earlier key error, events = later ++ .cache (.fail key error) :: earlier →
    ∃ entry, ((s.snapshot []).replay earlier).cache.get? key = some entry ∧
      entry.fail error = .ok (.failed error)
  /-- There is an entry to take back. -/
  interrupts : ∀ later earlier key error,
    events = later ++ .cache (.interrupt key error) :: earlier →
    ((s.snapshot []).replay earlier).cache.contains key = true
  /-- Settled entries have no part. -/
  parts : ∀ key entry, t.cache.get? key = some entry → entry.state ≠ .pending → entry.part? = none

namespace Tells

variable {events later earlier : List Happening} {key : String}

/-- The cache in the end is the one that the later part of a history leads to. -/
theorem reached (tells : Tells [] s t (later ++ earlier)) :
    t.cache = (((s.snapshot []).replay earlier).replay later).cache := by
  rw [← Snapshot.replay_append, ← tells.snapshot]
  rfl

theorem fresh (tells : Tells [] s t events) (member : key ∈ started events) :
    s.cache.get? key = none := by
  by_contra known
  obtain ⟨entry, known⟩ := Option.ne_none_iff_exists'.mp known
  exact (tells.lawful.keeps_idle known (by simp [Session.snapshot])).2.1 member

theorem restores (run : Run [] s t) (tells : Tells [] s t events) : Restores s t events where
  frame := run.frame
  fresh _ := tells.fresh
  absent key member := by
    have last := tells.lawful.absent_iff (tells.fresh member)
    rw [← tells.snapshot] at last
    exact last.trans (or_iff_right (not_not_intro member))
  settled := by
    rintro later earlier rfl key entry unpending known
    rw [tells.reached]
    exact (tells.lawful.of_append.2.keeps_settled known unpending).1
  order := by
    rintro later earlier rfl
    rw [tells.reached]
    exact tells.lawful.of_append.2.keys_stay
  own := by
    rintro later earlier rfl
    exact ((Snapshot.Sound.of_idle s.cache _).replay tells.lawful.of_append.1).pending
  resolves := by
    rintro later earlier key value rfl
    obtain ⟨number, loads, _⟩ := tells.lawful.allowed
    exact ⟨_, loads.pending, rfl⟩
  fails := by
    rintro later earlier key error rfl
    obtain ⟨⟨number, loads⟩, _⟩ := tells.lawful.allowed
    exact ⟨_, loads.pending, rfl⟩
  interrupts := by
    rintro later earlier key error rfl
    obtain ⟨⟨number, loads⟩, _⟩ := tells.lawful.allowed
    simp [Ordered.contains, loads.pending]
  parts key entry _ unpending := by
    cases entry with
    | pending part => exact absurd rfl unpending
    | resolved | failed => rfl

end Tells

/-- Whatever a session is asked to do, in whatever state, it leaves the pending entries as they were,
and nothing pending if nothing was; and so does every plan of loads on a cache alone. -/
theorem requests_restore_pending :
    (∀ (s : Session) tasks, ∃ events, Tells [] s (s.after tasks) events ∧
      Restores s (s.after tasks) events) ∧
    (∀ (s : Session) tasks, (∀ key part, s.cache.get? key ≠ some (.pending part)) →
      ∀ key part, (s.after tasks).cache.get? key ≠ some (.pending part)) ∧
    ∀ request (held : Cache.PlanState),
      Cache.Frame held.cache (Cache.Plan.runRequest request held).2.cache ∧
      (held.cache.get? request.key = none →
        (Cache.Plan.runRequest request held).2.cache.get? request.key =
          Cache.left? (Cache.Plan.runRequest request held).1) := by
  refine ⟨fun s tasks => ?_, fun s tasks idle key part pending => ?_, fun request held =>
    ⟨(Cache.Plan.runRequest_keeps request held).moved, Cache.Plan.get?_runRequest request⟩⟩
  · obtain ⟨events, tells⟩ := (after_run s tasks).tells
    exact ⟨events, tells, tells.restores (after_run s tasks)⟩
  · exact idle key part (((after_run s tasks).frame.pending key part).mp pending)

end Session

end ModuleSystem
