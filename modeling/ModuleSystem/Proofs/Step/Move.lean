import ModuleSystem.Proofs.Step.Watch

/-! # The kinds of strides

For every kind of step but one it is said when it is a stride under watch. Most of them leave the cache and
the records as they are. The mark that completes a module is no stride of its own: it comes with the end of
the load. -/

namespace ModuleSystem

open Identifier (canonicalId)
open Session (SmallStep Fresh Begun Fetched Running Brings loaderOf hooks)
open Value (Reference)

/-- There is nothing in a record that has not been made. -/
theorem World.record_of_size_le {world : World} {number : Nat} (beyond : world.records.size ≤ number) :
    world.record number = default := by
  unfold World.record
  rw [Array.getElem?_eq_none beyond]
  rfl

theorem World.record_size (world : World) : world.record world.records.size = default :=
  record_of_size_le (Nat.le_refl _)

namespace Watch.Moved

variable {w : Watch} {s t : Session}

/-- A step that changes no entry. -/
theorem of_small (small : SmallStep w.around s t) (cache : t.cache = s.cache)
    (unmarked : ∀ number < s.rest.records.size,
      (t.rest.record number).loaded = (s.rest.record number).loaded ∨
        ∃ loaded, t.rest.history = .flag number loaded :: s.rest.history)
    (parented : ∀ parent, (t.rest.record s.rest.records.size).parent = some parent →
      w.near s (.record parent))
    (holds : ∀ Q : Reference → Prop, (∀ reference, w.near s reference → Q reference) →
      s.rest.Within Q → t.rest.Within Q) : w.Moved s t := by
  refine .of_step ⟨.plain ⟨small, unmarked, ?_, ?_⟩, parented, holds⟩ ?_ fun _ _ => small.attached
  · intro key value known
    rwa [cache] at known
  · intro key number absent pending
    rw [cache, absent] at pending
    cases pending
  · intro key entry known
    rwa [cache]

/-- A step that changes no entry and no record. -/
theorem of_records (small : SmallStep w.around s t) (cache : t.cache = s.cache)
    (records : ∀ number, t.rest.record number = s.rest.record number)
    (holds : ∀ Q : Reference → Prop, (∀ reference, w.near s reference → Q reference) →
      s.rest.Within Q → t.rest.Within Q) : w.Moved s t := by
  refine .of_small small cache (fun number _ => .inl (by rw [records])) (fun parent known => ?_) holds
  rw [records, World.record_size] at known
  cases known

theorem host {host : Host} (later : s.rest.host.Later host)
    (raises : ∀ Q, s.rest.host.Raises Q → host.Raises Q) :
    w.Moved s ⟨s.cache, { s.rest with host }⟩ :=
  .of_records (.host later raises) rfl (fun _ => rfl) fun _ _ within => { within with }

theorem mounted {number : Nat} {f : Mounted → Mounted}
    (same : ∀ mounted, (f mounted).loader = mounted.loader) :
    w.Moved s ⟨s.cache, s.rest.updateMounted number f⟩ :=
  .of_records (.mounted same) rfl (fun _ => rfl) fun _ _ within => { within with }

theorem builtinCalls {builtinCalls : List Datum} :
    w.Moved s ⟨s.cache, { s.rest with builtinCalls }⟩ :=
  .of_records .builtinCalls rfl (fun _ => rfl) fun _ _ within => { within with }

/-- What a script changes if nothing is at hand but what may be kept. -/
theorem change {world : World} (change : s.rest.Change (w.near s) world) : w.Moved s ⟨s.cache, world⟩ := by
  refine .of_small (.change (change.mono fun reference near => ?_)) rfl
    (fun number _ => change.loaded_cases number) (fun parent known => ?_)
    fun _ sub within => (change.mono sub).within within
  · cases reference with
    | error raised => exact near
    | record number => trivial
  · rw [change.parent_eq, World.record_size] at known
    cases known

theorem scope {scope : Ordered Value} (new : scope.Within (w.near s)) :
    w.Moved s ⟨s.cache, { s.rest with scope := some scope }⟩ := by
  refine .of_records (.scope new.only) rfl (fun _ => rfl) fun _ sub within =>
    { within with scope := fun found same => ?_ }
  cases same
  exact new.mono sub

theorem main {key : String} {number : Nat} (fresh : Fresh s.rest key number) :
    w.Moved s ⟨s.cache, { s.rest with main := some ((s.rest.modules.get? key).getD number) }⟩ := by
  refine .of_records (.main fresh) rfl (fun _ => rfl) fun Q sub within => { within with main := ?_ }
  rintro _ ⟨⟩
  cases known : s.rest.modules.get? key with
  | some other => exact within.modules key other known
  | none =>
    refine sub _ fun _ => ?_
    rw [fresh.newest]
    exact Nat.lt_succ_self number

theorem answer {event : Cache.Event Nat Value Raised} (answers : s.cache.Answers event) :
    w.Moved s (s.update (Session.noteEvent event)) :=
  .of_records (.answer answers) rfl (Session.notes_answer event s).record
    fun _ _ within => within.noteEvent event

theorem lend {key : String} {number : Nat} (pending : s.cache.get? key = some (.pending (some number))) :
    w.Moved s (s.update fun world => world.tell (.lend number (world.record number).exports)) :=
  .of_records (.lend pending) rfl (fun _ => rfl) fun _ _ within => within.tell _

theorem enter {key : String} {number : Nat} (pending : s.cache.get? key = some (.pending (some number))) :
    w.Moved s (s.update fun world => world.tell (.enter number (world.record number).exports)) :=
  .of_records (.enter pending) rfl (fun _ => rfl) fun _ _ within => within.tell _

theorem fetch {protocol : Option String} {loader number : Nat} {resolved : String}
    (offers : s.rest.Offers (.loaded protocol loader resolved))
    (begun : Begun s (canonicalId protocol resolved) number) :
    w.Moved s (s.update fun world => world.tell (.work .fetch (canonicalId protocol resolved) number)) :=
  .of_records (.fetch offers begun) rfl (fun _ => rfl) fun _ _ within => within.tell _

/-- A new record, whose parent may be kept. -/
theorem create {id : String} {filename : Option String} {parent : Option Nat}
    (asking : ∀ number, parent = some number → w.near s (.record number)) :
    w.Moved s ⟨s.cache, s.rest.addRecord id filename parent⟩ := by
  refine .of_small .create rfl (fun number there => .inl ?_) (fun number known => asking number ?_)
    fun _ sub within => within.addRecord _ _ fun number same => sub _ (asking number same)
  · rw [World.record_addRecord, if_neg there.ne]
  · rwa [World.record_addRecord, if_pos rfl] at known

/-- The record of a pending key is attached, and work begins. -/
theorem of_attach {key : String} {number : Nat} {happening : Happening}
    (small : SmallStep w.around s ⟨s.cache, (s.rest.attach key number).tell happening⟩)
    (own : w.near s (.record number)) :
    w.Moved s ⟨s.cache, (s.rest.attach key number).tell happening⟩ := by
  have changed (other : Nat) : ((s.rest.attach key number).tell happening).record other = _ :=
    World.record_attach s.rest key number other
  refine .of_small small rfl (fun other _ => .inl ?_) (fun other known => ?_)
    fun Q sub within => (within.attach key (sub _ own)).tell happening
  · dsimp only
    rw [changed]
  · dsimp only at known
    rw [changed, World.record_size] at known
    cases known

theorem evaluate {protocol : Option String} {loader number : Nat} {resolved : String} {late : Host}
    {source : Datum} (offers : s.rest.Offers (.loaded protocol loader resolved))
    (later : s.rest.host.Later late)
    (loads : ((loaderOf s.rest loader).load resolved late).1 = .value source)
    (fetched : Fetched s (canonicalId protocol resolved) number) (own : w.near s (.record number)) :
    w.Moved s ⟨s.cache, (s.rest.attach (canonicalId protocol resolved) number).tell
      (.work .evaluate (canonicalId protocol resolved) number)⟩ :=
  .of_attach (.evaluate offers later loads fetched) own

theorem make {key : String} {number : Nat} (defined : s.rest.builtins.contains key = true)
    (begun : Begun s key number) (own : w.near s (.record number)) :
    w.Moved s ⟨s.cache, (s.rest.attach key number).tell (.work .make key number)⟩ :=
  .of_attach (.make defined begun) own

end Watch.Moved

namespace Watch.Step

variable {w : Watch} {s t : Session} {origin : Origin} {number : Nat}

/-- The load of a new record starts. -/
theorem start (offers : s.rest.Offers origin) (absent : s.cache.get? origin.key = none)
    (fresh : Fresh s.rest origin.key number)
    (created : ∃ exports, s.rest.history.head? = some (.create exports)) :
    w.Step s (Cache.start hooks origin.key (some number) s) := by
  have notes := Session.notes_start origin.key (some number) s
  refine ⟨.plain ⟨.start offers absent fresh, fun other _ => .inl (by rw [notes.record]), ?_,
      fun _ _ _ _ => created⟩,
    fun parent known => ?_, fun _ _ within => within.noteEvent (.load origin.key (some number))⟩
  · intro key value known
    rw [Cache.get?_start] at known
    split at known
    · cases known
    · exact known
  · rw [notes.record, World.record_size] at known
    cases known

/-- A load ends without a value. -/
theorem settle {outcome : Outcome Raised Value}
    (pending : s.cache.get? origin.key = some (.pending (some number)))
    (brings : Brings s.rest origin outcome) (valueless : ∀ value, outcome ≠ .value value)
    (meets : outcome.Meets (Value.Only (w.around s))
      (w.around (Cache.settle hooks origin.key (outcome, s)).2))
    (own : ∀ error, outcome = .error error → error.fault.isRequireError = true) :
    w.Step s (Cache.settle hooks origin.key (outcome, s)).2 := by
  refine ⟨.plain ⟨.settle pending brings meets own fun value same => absurd same (valueless value),
    fun other _ => .inl (by rw [Session.settle_record]), ?_, ?_⟩, fun parent known => ?_,
    fun _ _ within => within.settle⟩
  · intro key value known
    rw [Cache.get?_settle] at known
    split at known
    · cases outcome with
      | value other => exact absurd rfl (valueless other)
      | error => cases known
      | interruption => cases known
    · exact known
  · intro key other absent known
    rw [Cache.get?_settle, absent] at known
    split at known
    · cases outcome <;> cases known
    · cases known
  · rw [Session.settle_record, World.record_size] at known
    cases known

/-- A load ends with the exports of its record, which completes its module. -/
theorem complete (running : Running s origin.key number)
    (brings : Brings (s.finished number).rest origin (.value (s.rest.record number).exports))
    (only : (s.rest.record number).exports.Only (w.around (s.finished number))) :
    w.Step s (Cache.settle hooks origin.key
      (.value (s.rest.record number).exports, s.finished number)).2 := by
  refine ⟨.complete running brings only, fun parent known => ?_, fun Q _ within => ?_⟩
  · rw [Session.settle_record, Session.finished_record, if_neg fun both => Nat.lt_irrefl _ both.2,
      World.record_size] at known
    cases known
  · have marked : (s.finished number).rest.Within Q :=
      within.updateRecord number fun _ old => { old with loaded := Value.within_scalar _ }
    exact marked.settle

end Watch.Step

end ModuleSystem
