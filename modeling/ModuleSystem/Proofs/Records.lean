import ModuleSystem.Proofs.Created
import ModuleSystem.Proofs.Untouched

/-! # Records agree with the cache

The record of a module is attached before its code is run, it is marked as loaded when the code has come to
its end, and only then the key is resolved. No record ever belongs to two keys, so whoever gets to look
finds the record of a key marked as loaded exactly if the key is resolved, unless scripts set such marks
themselves. -/

namespace ModuleSystem

open Identifier (canonicalId)
open ModuleSystem.Action (Flow)

namespace Session

variable {around : Session → Raised → Prop} {s t : Session} {key other : String} {number : Nat}

/-- In a history no script has marked a record as loaded or as not loaded. -/
def Unflagged (history : List Happening) : Prop := ∀ number loaded, .flag number loaded ∉ history

theorem Unflagged.before {before after : List Happening} (unflagged : Unflagged after)
    (suffix : before <:+ after) : Unflagged before := fun number loaded member =>
  unflagged number loaded (suffix.subset member)

/-- A record belongs to a key: it is that of a load which is going on, or it is attached. -/
inductive Belongs (s : Session) (key : String) (number : Nat) : Prop
  | pending (known : s.cache.get? key = some (.pending (some number)))
  | attached (known : s.rest.modules.get? key = some number)

/-- Every record belongs to one key at most, and one that has just been made belongs to none. -/
structure Filed (s : Session) : Prop where
  there : ∀ key number, s.Belongs key number → number < s.rest.records.size
  unique : ∀ key other number, s.Belongs key number → s.Belongs other number → key = other
  newest : ∀ exports, s.rest.history.head? = some (.create exports) →
    ∀ key number, s.Belongs key number → number + 1 < s.rest.records.size

/-- The records of loads that are going on are not marked as loaded. Whatever key is resolved has a record
attached, and a record that is attached is marked as loaded if and only if its key is resolved. -/
structure Corresponds (s : Session) : Prop where
  pending : ∀ key number, s.cache.get? key = some (.pending (some number)) →
    (s.rest.record number).loaded = .bool false
  resolved : ∀ key value, s.cache.get? key = some (.resolved value) →
    ∃ number, s.rest.modules.get? key = some number
  loaded : ∀ key number, s.rest.modules.get? key = some number →
    ((s.rest.record number).loaded = .bool true ↔ ∃ value, s.cache.get? key = some (.resolved value))

/-! ## What strides do to records -/

/-- The table of modules stays, or a record is attached to its pending key. -/
theorem Stride.modules_cases (stride : Stride around s t) :
    t.rest.modules = s.rest.modules ∨
    ∃ key number, s.cache.get? key = some (.pending (some number)) ∧ t.cache = s.cache ∧
      t.rest.modules = s.rest.modules.set key number := by
  cases stride with
  | plain plain => exact plain.small.modules_cases
  | complete => exact .inl (settle_modules ..)

/-- The record of a load that has just started: it is the newest one, and has just been made. -/
structure Opened (s t : Session) (key : String) (number : Nat) : Prop where
  fresh : Fresh s.rest key number
  created : ∃ exports, s.rest.history.head? = some (.create exports)
  told : t.rest.history = .cache (.load key (some number)) :: s.rest.history

theorem Stride.belongs_cases (stride : Stride around s t) (belongs : t.Belongs key number) :
    s.Belongs key number ∨ Opened s t key number := by
  cases belongs with
  | pending known =>
    rcases stride.pending_cases known with before | ⟨_, same, fresh, created, told⟩
    · exact .inl (.pending before)
    · cases same
      exact .inr ⟨fresh, created, told⟩
  | attached known =>
    rcases stride.modules_cases with same | ⟨late, attached, pending, _, same⟩
    · rw [same] at known
      exact .inl (.attached known)
    · rw [same, Ordered.get?_set] at known
      split at known
      · rename_i here
        cases known
        exact .inl (.pending (here ▸ pending))
      · exact .inl (.attached known)

/-- If the latest happening is a new record, there is one more record, or nothing has happened. -/
theorem SmallStep.created_cases (step : SmallStep around s t) {exports : Value}
    (created : t.rest.history.head? = some (.create exports)) :
    t.rest.history = s.rest.history ∧ t.rest.records.size = s.rest.records.size ∨
      t.rest.records.size = s.rest.records.size + 1 := by
  cases step with
  | create => exact .inr (by simp [World.addRecord])
  | answer =>
    rw [(notes_answer ..).history] at created
    cases created
  | start =>
    rw [(notes_start ..).history] at created
    cases created
  | @settle origin number outcome =>
    obtain ⟨event, notes, _⟩ := notes_settle origin.key outcome s
    rw [notes.history] at created
    cases created
  | change change =>
    rcases change.history_cases with same | ⟨happening, told, scripted⟩
    · exact .inl ⟨same, change.size_eq⟩
    · rw [told] at created
      cases created
      cases scripted
  | lend | fetch | evaluate | make | enter => cases created
  | finish => exact .inl ⟨rfl, Array.size_modify ..⟩
  | _ => exact .inl ⟨rfl, rfl⟩

theorem Stride.created_cases (stride : Stride around s t) {exports : Value}
    (created : t.rest.history.head? = some (.create exports)) :
    t.rest.history = s.rest.history ∧ t.rest.records.size = s.rest.records.size ∨
      t.rest.records.size = s.rest.records.size + 1 := by
  cases stride with
  | plain plain => exact plain.small.created_cases created
  | @complete origin number =>
    obtain ⟨event, notes, _⟩ :=
      notes_settle origin.key (.value (s.rest.record number).exports) (s.finished number)
    rw [notes.history] at created
    cases created

/-! ## What is kept by strides -/

theorem Filed.stride (filed : s.Filed) (stride : Stride around s t) : t.Filed := by
  have size : s.rest.records.size ≤ t.rest.records.size := stride.smallSteps.size_le
  refine ⟨fun key number belongs => ?_, fun key other number one two => ?_,
    fun exports created key number belongs => ?_⟩
  · rcases stride.belongs_cases belongs with before | opened
    · exact (filed.there key number before).trans_le size
    · rw [opened.fresh.newest] at size
      exact size
  · rcases stride.belongs_cases one with before | opened
    · rcases stride.belongs_cases two with alsoBefore | alsoOpened
      · exact filed.unique key other number before alsoBefore
      · obtain ⟨exports, created⟩ := alsoOpened.created
        have older := filed.newest exports created key number before
        exact absurd alsoOpened.fresh.newest older.ne'
    · rcases stride.belongs_cases two with before | alsoOpened
      · obtain ⟨exports, created⟩ := opened.created
        have older := filed.newest exports created other number before
        exact absurd opened.fresh.newest older.ne'
      · have ids := opened.fresh.id.symm.trans alsoOpened.fresh.id
        cases ids
        rfl
  · rcases stride.belongs_cases belongs with before | opened
    · rcases stride.created_cases created with ⟨silent, same⟩ | more
      · rw [silent] at created
        rw [same]
        exact filed.newest exports created key number before
      · rw [more]
        exact Nat.succ_lt_succ (filed.there key number before)
    · rw [opened.told] at created
      cases created

/-- Unless a script does so, no step but the completion of a module changes whether a record is loaded. -/
theorem Plain.loaded_eq (plain : Plain around s t) (unflagged : Unflagged t.rest.history)
    (there : number < s.rest.records.size) :
    (t.rest.record number).loaded = (s.rest.record number).loaded := by
  rcases plain.unmarked number there with same | ⟨loaded, told⟩
  · exact same
  · rw [told] at unflagged
    exact absurd (List.mem_cons_self ..) (unflagged number loaded)

theorem Corresponds.pending_of_stride (corresponds : s.Corresponds) (filed : s.Filed)
    (stride : Stride around s t) (unflagged : Unflagged t.rest.history)
    (known : t.cache.get? key = some (.pending (some number))) :
    (t.rest.record number).loaded = .bool false := by
  have before (pending : s.cache.get? key = some (.pending (some number))) :=
    corresponds.pending key number pending
  cases stride with
  | plain plain =>
    rcases plain.small.pending_cases known with pending | ⟨_, _, same, fresh, _⟩
    · rw [plain.loaded_eq unflagged (filed.there key number (.pending pending))]
      exact before pending
    · cases same
      rw [plain.loaded_eq unflagged (fresh.newest ▸ Nat.lt_succ_self number)]
      exact fresh.loaded
  | @complete origin done running =>
    rw [Cache.get?_settle] at known
    split at known
    · cases known
    · rename_i differs
      have others : number ≠ done := by
        rintro rfl
        exact differs (filed.unique key origin.key number (.pending known) (.pending running.pending))
      rw [settle_record, finished_record, if_neg fun both => others both.1]
      exact before known

theorem Corresponds.resolved_of_stride (corresponds : s.Corresponds) (stride : Stride around s t)
    {value : Value} (known : t.cache.get? key = some (.resolved value)) :
    ∃ number, t.rest.modules.get? key = some number := by
  rcases stride.resolved known with before | ⟨number, _, complete⟩
  · obtain ⟨number, attached⟩ := corresponds.resolved key value before
    rcases stride.modules_cases with same | ⟨late, other, _, _, same⟩
    · exact ⟨number, same ▸ attached⟩
    · rw [same, Ordered.get?_set]
      split
      · exact ⟨other, rfl⟩
      · exact ⟨number, attached⟩
  · exact ⟨number, complete.attached⟩

theorem Corresponds.loaded_of_plain (corresponds : s.Corresponds) (filed : s.Filed) (plain : Plain around s t)
    (unflagged : Unflagged t.rest.history) (attached : t.rest.modules.get? key = some number) :
    (t.rest.record number).loaded = .bool true ↔ ∃ value, t.cache.get? key = some (.resolved value) := by
  have stays : (∃ value, t.cache.get? key = some (.resolved value)) ↔
      ∃ value, s.cache.get? key = some (.resolved value) :=
    ⟨fun ⟨value, known⟩ => ⟨value, plain.unresolved key value known⟩,
      fun ⟨value, known⟩ => ⟨value, plain.small.settled known nofun⟩⟩
  have old (before : s.rest.modules.get? key = some number) :
      (t.rest.record number).loaded = .bool true ↔ ∃ value, t.cache.get? key = some (.resolved value) := by
    rw [plain.loaded_eq unflagged (filed.there key number (.attached before)), stays]
    exact corresponds.loaded key number before
  rcases plain.small.modules_cases with same | ⟨late, other, pending, cache, same⟩
  · exact old (same ▸ attached)
  · rw [same, Ordered.get?_set] at attached
    split at attached
    · rename_i here
      subst here
      cases attached
      have unmarked := corresponds.pending key number pending
      rw [plain.loaded_eq unflagged (filed.there key number (.pending pending)), unmarked, stays, pending]
      exact ⟨nofun, nofun⟩
    · exact old attached

theorem Corresponds.loaded_of_complete (corresponds : s.Corresponds) (filed : s.Filed) {origin : Origin}
    {done : Nat} (running : s.Running origin.key done)
    (attached : s.rest.modules.get? key = some number) :
    let t := (Cache.settle hooks origin.key (.value (s.rest.record done).exports, s.finished done)).2
    (t.rest.record number).loaded = .bool true ↔ ∃ value, t.cache.get? key = some (.resolved value) := by
  intro t
  by_cases here : key = origin.key
  · subst here
    rw [running.attached] at attached
    cases attached
    exact ⟨fun _ => ⟨_, (Cache.get?_settle ..).trans (if_pos rfl)⟩, fun _ => running.complete.loaded⟩
  · have others : number ≠ done := by
      rintro rfl
      exact here (filed.unique key origin.key number (.attached attached) (.attached running.attached))
    have kept : (t.rest.record number).loaded = (s.rest.record number).loaded := by
      rw [settle_record, finished_record, if_neg fun both => others both.1]
    have known : t.cache.get? key = s.cache.get? key := (Cache.get?_settle ..).trans (if_neg here)
    rw [kept, known]
    exact corresponds.loaded key number attached

/-- A stride leaves records in agreement with the cache, unless it is a script that marks one. -/
theorem Corresponds.stride (corresponds : s.Corresponds) (filed : s.Filed) (stride : Stride around s t)
    (unflagged : Unflagged t.rest.history) : t.Corresponds := by
  refine ⟨fun key number => corresponds.pending_of_stride filed stride unflagged,
    fun key value => corresponds.resolved_of_stride stride, fun key number attached => ?_⟩
  cases stride with
  | plain plain => exact corresponds.loaded_of_plain filed plain unflagged attached
  | complete running =>
    rw [settle_modules] at attached
    exact corresponds.loaded_of_complete filed running attached

/-! ## What can be looked at -/

/-- Sessions that somebody gets to look at: those to which strides lead from where nothing has been loaded,
and from where something has been set up. -/
inductive Visible : Session → Prop
  | empty (host : Host) : Visible (Session.empty host)
  | set_up {s t : Session} (visible : Visible s) (setUp : SetUp (fun _ => True) s t)
      (modules : t.rest.modules = s.rest.modules) : Visible t
  | stride {s t : Session} (visible : Visible s) (stride : Stride (fun _ _ => True) s t) : Visible t

theorem SetUp.belongs (setUp : SetUp (fun _ => True) s t) (modules : t.rest.modules = s.rest.modules)
    (belongs : t.Belongs key number) : s.Belongs key number := by
  cases belongs with
  | pending known => exact .pending (setUp.cache ▸ known)
  | attached known => exact .attached (modules ▸ known)

theorem SetUp.record {P : Fault → Prop} (setUp : SetUp P s t) (number : Nat) :
    t.rest.record number = s.rest.record number := World.record_congr setUp.records number

namespace Visible

theorem of_settings (settings : Settings) (builtins : Ordered Builtin) (host : Host) :
    (created settings builtins host).Visible :=
  (empty host).set_up (created_setUp settings builtins host) (configure_supplied settings _).modules

theorem filed (visible : s.Visible) : s.Filed := by
  induction visible with
  | empty host =>
    have nothing (key : String) (number : Nat)
        (belongs : (Session.empty host).Belongs key number) : False := by
      cases belongs with
      | pending known | attached known => cases known
    exact ⟨fun key number belongs => (nothing key number belongs).elim,
      fun key other number one _ => (nothing key number one).elim,
      fun _ _ key number belongs => (nothing key number belongs).elim⟩
  | set_up _ setUp modules ih =>
    obtain ⟨there, unique, newest⟩ := ih
    refine ⟨fun key number belongs => ?_, fun key other number one two => ?_,
      fun exports created key number belongs => ?_⟩
    · rw [setUp.records]
      exact there key number (setUp.belongs modules belongs)
    · exact unique key other number (setUp.belongs modules one) (setUp.belongs modules two)
    · rw [setUp.history] at created
      rw [setUp.records]
      exact newest exports created key number (setUp.belongs modules belongs)
  | stride _ stride ih => exact ih.stride stride

theorem corresponds (visible : s.Visible) (unflagged : Unflagged s.rest.history) : s.Corresponds := by
  induction visible with
  | empty host => exact ⟨by rintro _ _ ⟨⟩, by rintro _ _ ⟨⟩, by rintro _ _ ⟨⟩⟩
  | @set_up s t _ setUp modules ih =>
    obtain ⟨pending, resolved, loaded⟩ := ih (setUp.history ▸ unflagged)
    refine ⟨fun key number known => ?_, fun key value known => ?_, fun key number known => ?_⟩
    · rw [setUp.record]
      exact pending key number (setUp.cache ▸ known)
    · rw [modules]
      exact resolved key value (setUp.cache ▸ known)
    · rw [setUp.record, setUp.cache]
      exact loaded key number (modules ▸ known)
  | stride visible stride ih =>
    exact (ih (unflagged.before stride.smallSteps.suffix)).stride visible.filed stride unflagged

theorem clean (visible : s.Visible) : Watch.everything.Clean s := by
  induction visible with
  | empty host => exact clean_empty (fun _ _ _ _ _ => trivial) trivial
  | set_up _ setUp _ ih =>
    exact setUp.clean ih trivial (fun _ => id) (setUp.raises ih.raises) (fun _ _ _ _ _ _ => trivial)
      False.elim
  | stride _ stride ih => exact Watch.clean_of_steps stride.smallSteps id (fun _ => trivial) ih

theorem moved (visible : s.Visible) (moved : Watch.everything.Moved s t) : t.Visible := by
  have steps := moved.steps
  clear moved
  induction steps with
  | refl => exact visible
  | tail _ step ih => exact ih.stride step.stride

theorem after (visible : s.Visible) (tasks : List Task) : (s.after tasks).Visible :=
  visible.moved (after_moved (fun _ => trivial) visible.clean id tasks)

theorem asks (visible : s.Visible) (asks : Asks s t) : t.Visible :=
  visible.moved (asks.moved (fun _ => trivial) trivial visible.clean id)

theorem dispatch (visible : s.Visible) (asMain : Bool) (parent : Option Nat) (raw : Value) :
    (dispatch require asMain parent raw s).2.Visible := by
  have orderly : Orderly .everything s _ (Session.dispatch require asMain parent raw) :=
    dispatch_orderly (fun _ => trivial) trivial asMain (Watch.asking_of_untracked _ id) raw
  exact visible.moved (orderly s visible.clean (Flow.refl s)).moved

/-- Whatever a script does on the way, it does it where one may look. -/
theorem script {α : Type} (visible : s.Visible) (scope : Ordered Value) {V : Session → α → Prop}
    {action : Script.FrameAction α}
    (upheld : Script.FrameUpheld Watch.everything.walk ⟨scope, s⟩ V action action) :
    (action ⟨scope, s⟩).2.session.Visible := by
  have within : scope.Within (Watch.everything.near s) := fun _ _ _ =>
    Value.within_of_forall (Watch.near_everything s) _
  exact visible.moved (upheld ⟨scope, s⟩ ⟨visible.clean, within⟩ (Flow.refl _)).moved.session

end Visible

/-- Whoever looks finds records in agreement with the cache, unless scripts mark them. One may look at
whatever is created from settings, and then after any tasks, where modules ask for others, after each
request, and wherever a script gets statement by statement and expression by expression. When a key becomes
resolved, it is to the exports of its record, which is attached and marked as loaded. A module whose source
cannot be read gets no record by that. -/
theorem records_agree_with_cache :
    (∀ s : Session, s.Visible → Unflagged s.rest.history → s.Corresponds) ∧
    (∀ settings builtins host, (created settings builtins host).Visible) ∧
    (∀ s : Session, s.Visible → (∀ tasks, (s.after tasks).Visible) ∧ (∀ t, Asks s t → t.Visible) ∧
      (∀ asMain parent raw, (dispatch require asMain parent raw s).2.Visible) ∧
      (∀ scope e, (Script.evaluate require e ⟨scope, s⟩).2.session.Visible) ∧
      ∀ scope body, (Script.runAll require body ⟨scope, s⟩).2.session.Visible) ∧
    (∀ s t : Session, s.Visible → Stride (fun _ _ => True) s t → ∀ key value,
      t.cache.get? key = some (.resolved value) → s.cache.get? key = some (.resolved value) ∨
        ∃ number, Complete t.rest key number value) ∧
    ∀ s asMain parent raw protocol loader resolved,
      origin? parent raw s = some (.loaded protocol loader resolved) →
      s.cache.get? (canonicalId protocol resolved) = none →
      ∃ number u, Fetches s (placeOf protocol loader resolved) number
        (dispatch require asMain parent raw s) u ∧
        ((∀ source, (fetchSource (placeOf protocol loader resolved) u).1 ≠ .value source) →
          Unread s (canonicalId protocol resolved) (dispatch require asMain parent raw s)) := by
  refine ⟨fun s visible => visible.corresponds, Visible.of_settings,
    fun s visible => ⟨visible.after, fun t => visible.asks, visible.dispatch, fun scope e => ?_,
      fun scope body => ?_⟩,
    fun s t _ stride key value known => ?_,
    fun s asMain parent raw protocol loader resolved found absent => ?_⟩
  · exact visible.script scope (Script.evaluate_upheld (require_alikeFrom (fun _ => trivial) s) e)
  · exact visible.script scope (Script.runAll_upheld (require_alikeFrom (fun _ => trivial) s) body)
  · rcases stride.resolved known with before | ⟨number, _, complete⟩
    · exact .inl before
    · exact .inr ⟨number, complete⟩
  · obtain ⟨number, u, fetches⟩ := dispatch_fetches asMain found absent
    exact ⟨number, u, fetches, fetches.unread⟩

end Session

end ModuleSystem
