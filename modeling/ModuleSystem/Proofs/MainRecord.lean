import ModuleSystem.Proofs.Records

/-! # The main record

A request for the main module chooses the main record before it asks the cache: the record that is attached
under the key, or else a new one. From then on the main record stays, whatever modules do and ask for on
the way. It is the record of the module that runs, unless an earlier load of the key has been interrupted:
the record of that load is still attached, so it becomes the main one, although a new record runs. -/

namespace ModuleSystem

open ModuleSystem.Action (Flow Moves Agree AgreeAt Closed)

namespace Session

variable {P : Session → Prop} {one other : Script.Requirer} {s t : Session} {origin : Origin}
  {key path : String} {number : Nat} {value : Value}

/-! ## The main record stays -/

/-- The main record is the same, and what has failed is remembered. -/
structure SameMain (s t : Session) : Prop where
  main : t.rest.main = s.rest.main
  failed : ∀ key error, s.cache.get? key = some (.failed error) → t.cache.get? key = some (.failed error)

instance : Tolerant SameMain where
  refl _ := ⟨rfl, fun _ _ => id⟩
  trans early late := ⟨late.main.trans early.main,
    fun key error known => late.failed key error (early.failed key error known)⟩
  step _ _ _ main := ⟨main, fun _ _ => id⟩
  answer s event _ := ⟨(notes_answer event s).main, fun _ _ => id⟩
  lend _ _ _ _ := ⟨rfl, fun _ _ => id⟩
  recalls moved error := fun ⟨key, known⟩ => ⟨key, moved.failed key error known⟩

theorem Stages.sameMain (closed : Closed P SameMain) (loading : Loading) :
    Stages P SameMain loading where
  closed
  work _ _ _ := ⟨rfl, fun _ _ => id⟩
  attach {s} _ := by
    refine ⟨?_, fun _ _ => id⟩
    change (s.rest.attach loading.key loading.number).main = s.rest.main
    unfold World.attach
    dsimp only
    split <;> rfl
  enter _ := ⟨rfl, fun _ _ => id⟩

theorem SameMain.start (absent : s.cache.get? key = none) :
    SameMain s (Cache.start hooks key (some number) s) := by
  refine ⟨(notes_start key (some number) s).main, fun other error known => ?_⟩
  rw [Cache.get?_start, if_neg (Ordered.ne_of_get? absent known), known]

theorem SameMain.settle (absent : s.cache.get? key = none) (same : SameMain s t)
    (outcome : Outcome Raised Value) : SameMain s (Cache.settle hooks key (outcome, t)).2 := by
  obtain ⟨_, notes, _⟩ := notes_settle key outcome t
  refine ⟨notes.main.trans same.main, fun other error known => ?_⟩
  rw [Cache.get?_settle, if_neg (Ordered.ne_of_get? absent known)]
  exact same.failed other error known

theorem Loads.sameMain {x y : SessionAction Value} {world : World}
    (alike : Script.Alike P SameMain one other) (loads : Loads world one number origin x)
    (alsoLoads : Loads world other number origin y) : Agree P SameMain x y := by
  cases loads with
  | @builtin name builtin known =>
    rw [alsoLoads.eq_builtin known]
    exact loadBuiltin_agree builtin (.sameMain alike.closed ⟨name, number⟩) alike
  | loaded =>
    cases alsoLoads with
    | loaded => exact load_agree (.sameMain alike.closed _) fun _ _ _ _ _ _ => alike

/-- A request at the cache leaves the main record, if the requests that modules make on the way do. -/
theorem getOrLoad_sameMain {x y : SessionAction Value} (closed : Closed P SameMain)
    (agree : Agree P SameMain x y) (inside : P s) :
    AgreeAt SameMain (Cache.getOrLoad hooks key (some number) x)
      (Cache.getOrLoad hooks key (some number) y) s :=
  getOrLoad_agree (fun absent => agree _ (closed inside (.start absent)))
    fun outcome _ absent _ same _ => .settle absent (Flow.trans (.start absent) same) outcome

/-- Only a request for the main module chooses a main record. -/
theorem dispatch_sameMain (alike : Script.Alike P SameMain one other) (parent : Option Nat) (raw : Value) :
    Agree P SameMain (dispatch one false parent raw) (dispatch other false parent raw) := by
  intro s inside
  refine dispatch_agreeAt fun origin filename main t x y _ resolved kept loads alsoLoads => ?_
  obtain rfl := kept rfl
  have made : SameMain t
      ⟨t.cache, { t.rest.addRecord origin.key filename parent with main := t.rest.main }⟩ :=
    ⟨rfl, fun _ _ => id⟩
  exact ⟨made, getOrLoad_sameMain alike.closed (loads.sameMain alike alsoLoads)
    (alike.closed inside (Flow.trans resolved made))⟩

/-- Whatever modules ask for, the main record stays. -/
theorem require_sameMain : Script.Alike (fun _ => True) SameMain require require := by
  have everywhere : Closed (fun _ => True) SameMain := fun _ _ _ _ => trivial
  -- nothing is asked for beyond the bound, so it does not matter how that is answered
  let beyond : Script.Requirer := fun _ _ => Action.pure .null
  have within (depth : Nat) : Script.Alike (fun _ => True) SameMain (requireWithin beyond depth false)
      (requireWithin beyond depth false) := by
    induction depth with
    | zero => exact ⟨everywhere, fun _ _ => (Moves.done _).agree⟩
    | succ depth ih => exact ⟨everywhere, dispatch_sameMain ih⟩
  refine ⟨everywhere, fun parent raw s _ => ?_⟩
  have bounded : require parent raw s = requireWithin beyond (nestingBound s.rest) false parent raw s := by
    rw [requireWithin_eq_dispatch beyond s.room_lt_nestingBound, ← require_eq_dispatch]
  exact ((within _).agree parent raw s trivial).of_eq bounded bounded

/-! ## The choice of the main record -/

/-- A file is run as the main module with a main record: it is the main one in the end, and wherever
modules ask for others on the way. -/
structure RunsWith (s : Session) (path : String) (main : Nat) : Prop where
  ends : (requireMain path s).2.rest.main = some main
  asks : ∀ inner t, (∀ u, u ≠ t → ∀ parent raw, inner parent raw u = require parent raw u) →
    dispatch inner true none (.text (Path.absolute s.rest.host.files.workingDirectory path)) s ≠
      requireMain path s → t.rest.main = some main

/-- Another way to answer requests, which does the same in all sessions with a main record. -/
theorem require_alike_of_main {main : Option Nat}
    (same : ∀ u : Session, u.rest.main = main → ∀ parent raw, other parent raw u = require parent raw u) :
    Script.Alike (fun u => u.rest.main = main) SameMain require other where
  closed _ _ member moved := moved.main.trans member
  agree parent raw u member :=
    (require_sameMain.agree parent raw u trivial).of_eq rfl (same u member parent raw)

/-- The main record is the one that is attached under the key of the file, or else a new one, and it is the
new one that runs if the key is absent. -/
theorem requireMain_runs (clean : Watch.everything.Clean s)
    (found : origin? none (.text (Path.absolute s.rest.host.files.workingDirectory path)) s = some origin)
    (loaded : origin.isLoaded = true) :
    ∃ number, RunsWith s path ((s.rest.modules.get? origin.key).getD number) ∧
      (s.cache.get? origin.key = none → ∀ value, (requireMain path s).1 = .value value →
        Complete (requireMain path s).2.rest origin.key number value) := by
  have asked := requireMain_eq_dispatch path s
  obtain ⟨t, number, moved, cache, requested, chosen, reaches⟩ :=
    dispatch_moved clean true (Watch.asking_none _) found
  have main := chosen rfl loaded
  obtain ⟨x, loads, reached⟩ := reaches require
  have same {inner : Script.Requirer} (elsewhere : ∀ u : Session, u.rest.main = t.rest.main →
      ∀ parent raw, inner parent raw u = require parent raw u) {y : SessionAction Value}
      (alsoLoads : Loads s.rest inner number origin y) :
      AgreeAt SameMain (Cache.getOrLoad hooks origin.key (some number) x)
        (Cache.getOrLoad hooks origin.key (some number) y) t :=
    have alike := require_alike_of_main elsewhere
    getOrLoad_sameMain alike.closed (loads.sameMain alike alsoLoads) rfl
  refine ⟨number, ⟨?_, fun inner u elsewhere differs => ?_⟩, fun absent value ran => ?_⟩
  · rw [asked, reached]
    exact (same (fun _ _ _ _ => rfl) loads).moved.main.trans main
  · by_contra away
    obtain ⟨y, alsoLoads, reachesInner⟩ := reaches inner
    refine differs ?_
    rw [asked, reached, reachesInner]
    refine (same (fun v here => elsewhere v ?_) alsoLoads).same.symm
    rintro rfl
    exact away (here.trans main)
  · rw [← cache] at absent
    have starts := Flow.trans moved (requested.start_moved absent)
    have loads := loads.of_later starts.later
    obtain ⟨_, ends⟩ := loads.concludes (starts.clean clean) trivial
      (require_alikeFrom (fun _ => trivial) _) (starts.later.offers (origin?_offers found))
      ⟨Ordered.get?_set_self .., rfl⟩ requested.made loads
    rw [asked, reached, Cache.getOrLoad_of_absent _ _ _ absent] at ran ⊢
    rw [Cache.settle_fst] at ran
    generalize x (Cache.start hooks origin.key (some number) t) = result at ends ran ⊢
    cases ends with
    | value _ _ running =>
      cases ran
      exact running.complete
    | error => cases ran
    | interruption => cases ran

/-! ## The exports of a module -/

/-- In a history nobody assigns exports to the record of a load once its key has been resolved. -/
def Unaltered (history : List Happening) : Prop :=
  ∀ later earlier key number exports value, history = later ++ .assign number exports :: earlier →
    .cache (.load key (some number)) ∈ earlier → .cache (.resolve key value) ∉ earlier

theorem Unaltered.before {before after : List Happening} (unaltered : Unaltered after)
    (suffix : before <:+ after) : Unaltered before := by
  obtain ⟨more, rfl⟩ := suffix
  rintro later earlier key number exports value rfl
  exact unaltered (more ++ later) earlier key number exports value (List.append_assoc ..).symm

/-- The history tells of the load of every record that belongs to a key, and of every key that is resolved. -/
structure Recounted (s : Session) : Prop where
  loaded : ∀ key number, s.Belongs key number → .cache (.load key (some number)) ∈ s.rest.history
  resolved : ∀ key value, s.cache.get? key = some (.resolved value) →
    .cache (.resolve key value) ∈ s.rest.history

section

variable {around : Session → Raised → Prop}

theorem Recounted.stride (recounted : s.Recounted) (stride : Stride around s t) : t.Recounted where
  loaded key number belongs := by
    rcases stride.belongs_cases belongs with before | opened
    · exact stride.smallSteps.suffix.subset (recounted.loaded key number before)
    · rw [opened.told]
      exact List.mem_cons_self
  resolved key value known := by
    have kept (before : s.cache.get? key = some (.resolved value)) :=
      stride.smallSteps.suffix.subset (recounted.resolved key value before)
    cases stride with
    | plain plain => exact kept (plain.unresolved key value known)
    | @complete origin number =>
      have told : (Cache.settle hooks origin.key
          (.value (s.rest.record number).exports, s.finished number)).2.rest.history =
            .cache (.resolve origin.key (s.rest.record number).exports) :: s.rest.history :=
        (notes_noteEvent ..).history
      rw [Cache.get?_settle] at known
      split at known
      · rename_i same
        cases known
        rw [told, same]
        exact List.mem_cons_self
      · exact kept known

/-- A stride changes exports only if a script assigns others. -/
theorem Stride.exports_cases (stride : Stride around s t) (there : number < s.rest.records.size) :
    (t.rest.record number).exports = (s.rest.record number).exports ∨
      ∃ exports, t.rest.history = .assign number exports :: s.rest.history := by
  cases stride with
  | plain plain =>
    cases plain.small.touched there with
    | kept same | renamed _ _ same | flagged _ _ same | finished _ _ same =>
      exact .inl ((congrArg ModuleRecord.exports same).trans rfl)
    | altered name value _ same =>
      exact .inl ((congrArg ModuleRecord.exports same).trans (ModuleRecord.exports_assign ..))
    | assigned exports told => exact .inr ⟨exports, told⟩
  | complete => exact .inl (by rw [settle_record, finished_exports])

/-- No load is for a record, and none will be. -/
structure Spent (s : Session) (number : Nat) : Prop where
  there : number < s.rest.records.size
  idle : ∀ key, s.cache.get? key ≠ some (.pending (some number))
  older : ∀ exports, s.rest.history.head? = some (.create exports) → number + 1 < s.rest.records.size

theorem Spent.stride (spent : s.Spent number) (stride : Stride around s t) : t.Spent number where
  there := spent.there.trans_le stride.smallSteps.size_le
  idle key known := by
    rcases stride.pending_cases known with before | ⟨_, same, fresh, ⟨exports, created⟩, _⟩
    · exact spent.idle key before
    · cases same
      exact (spent.older exports created).ne' fresh.newest
  older exports created := by
    rcases stride.created_cases created with ⟨silent, same⟩ | more
    · rw [same]
      exact spent.older exports (silent ▸ created)
    · rw [more]
      exact Nat.succ_lt_succ spent.there

theorem Spent.loaded_eq (spent : s.Spent number) (stride : Stride around s t)
    (unflagged : Unflagged t.rest.history) :
    (t.rest.record number).loaded = (s.rest.record number).loaded := by
  cases stride with
  | plain plain => exact plain.loaded_eq unflagged spent.there
  | @complete origin done running =>
    have others : number ≠ done := by
      rintro rfl
      exact spent.idle origin.key running.pending
    rw [settle_record, finished_record, if_neg fun both => others both.1]

/-- Nobody but a script marks a spent record as loaded. -/
theorem Spent.loaded_eq_of_moved {w : Watch} (spent : s.Spent number) (moved : w.Moved s t)
    (unflagged : Unflagged t.rest.history) :
    (t.rest.record number).loaded = (s.rest.record number).loaded := by
  have steps := moved.steps
  clear moved
  suffices t.Spent number ∧ (t.rest.record number).loaded = (s.rest.record number).loaded from this.2
  induction steps with
  | refl => exact ⟨spent, rfl⟩
  | tail _ step ih =>
    obtain ⟨still, same⟩ := ih (unflagged.before step.small.suffix)
    exact ⟨still.stride step.stride, (still.loaded_eq step.stride unflagged).trans same⟩

end

namespace Visible

theorem recounted (visible : s.Visible) : s.Recounted := by
  induction visible with
  | empty host =>
    refine ⟨fun key number belongs => ?_, by rintro _ _ ⟨⟩⟩
    cases belongs with
    | pending known | attached known => cases known
  | set_up _ setUp modules ih =>
    refine ⟨fun key number belongs => ?_, fun key value known => ?_⟩
    · rw [setUp.history]
      exact ih.loaded key number (setUp.belongs modules belongs)
    · rw [setUp.history]
      exact ih.resolved key value (setUp.cache ▸ known)
  | stride _ stride ih => exact ih.stride stride

/-- The value of a key is the exports of the record that is attached under it. -/
theorem exports (visible : s.Visible) (unaltered : Unaltered s.rest.history)
    (known : s.cache.get? key = some (.resolved value)) (attached : s.rest.modules.get? key = some number) :
    (s.rest.record number).exports = value := by
  induction visible with
  | empty host => cases known
  | set_up _ setUp modules ih =>
    rw [setUp.record]
    exact ih (setUp.history ▸ unaltered) (setUp.cache ▸ known) (modules ▸ attached)
  | @stride s t visible stride ih =>
    rcases stride.resolved known with before | ⟨done, _, complete⟩
    · have old : s.rest.modules.get? key = some number := by
        rcases stride.modules_cases with same | ⟨late, other, pending, _, same⟩
        · exact same ▸ attached
        · rw [same, Ordered.get?_set] at attached
          split at attached
          · rename_i here
            rw [here, pending] at before
            cases before
          · exact attached
      have belongs : s.Belongs key number := .attached old
      rcases stride.exports_cases (visible.filed.there key number belongs) with same | ⟨exports, told⟩
      · rw [same]
        exact ih (unaltered.before stride.smallSteps.suffix) before old
      · exact absurd (visible.recounted.resolved key value before)
          (unaltered [] _ key number exports value told (visible.recounted.loaded key number belongs))
    · rw [complete.attached] at attached
      cases attached
      exact complete.exports

end Visible

/-! ## Files that have run as the main module -/

/-- What is complete when a request is answered without work stays complete. -/
theorem Answered.complete {told : List Happening} (answered : Answered s t told)
    (there : number < s.rest.records.size) (complete : Complete s.rest key number value) :
    Complete t.rest key number value := by
  have same : t.rest.record number = s.rest.record number := by
    simp only [World.record, answered.records number there]
  exact ⟨answered.modules ▸ complete.attached, same ▸ complete.loaded, same ▸ complete.exports⟩

/-- A file is found by a loader and runs as the main module, and scripts mark no records. -/
structure RanAsMain (s : Session) (path : String) (origin : Origin) (value : Value) : Prop where
  visible : s.Visible
  found : origin? none (.text (Path.absolute s.rest.host.files.workingDirectory path)) s = some origin
  loaded : origin.isLoaded = true
  ran : (requireMain path s).1 = .value value
  unflagged : Unflagged (requireMain path s).2.rest.history

namespace RanAsMain

theorem moved (ran : s.RanAsMain path origin value) :
    Watch.everything.Moved s (requireMain path s).2 :=
  (requireMain_orderly (fun _ => trivial) path s ran.visible.clean (Flow.refl s)).moved

theorem corresponds (ran : s.RanAsMain path origin value) : s.Corresponds :=
  ran.visible.corresponds (ran.unflagged.before ran.moved.suffix)

theorem unloaded (ran : s.RanAsMain path origin value) {old : Nat} (absent : s.cache.get? origin.key = none)
    (attached : s.rest.modules.get? origin.key = some old) : (s.rest.record old).loaded ≠ .bool true := by
  intro marked
  obtain ⟨other, known⟩ := (ran.corresponds.loaded _ old attached).mp marked
  rw [absent] at known
  cases known

theorem target (ran : s.RanAsMain path origin value) :
    target? none (.text (Path.absolute s.rest.host.files.workingDirectory path)) s = some origin.key := by
  rw [target?_eq_map_origin?, ran.found]
  rfl

/-- A key that gets a value while no load of it is going on is absent, or has been resolved to the value. -/
theorem entry_cases (ran : s.RanAsMain path origin value)
    (idle : ∀ part, s.cache.get? origin.key ≠ some (.pending part)) :
    s.cache.get? origin.key = none ∨ s.cache.get? origin.key = some (.resolved value) := by
  have target := ran.target
  have ended := ran.ran
  rw [requireMain_eq_dispatch] at ended
  cases known : s.cache.get? origin.key with
  | none => exact .inl rfl
  | some entry =>
    cases entry with
    | resolved other =>
      obtain ⟨t, _, answer⟩ := dispatch_of_resolved require true target known
      rw [answer] at ended
      cases ended
      exact .inr rfl
    | failed error =>
      obtain ⟨t, _, answer⟩ := dispatch_of_failed require true target known
      rw [answer] at ended
      cases ended
    | pending part => exact absurd known (idle part)

/-- If no other record than one of a loaded module is attached under its key, the main record is the very
record that is attached there in the end. It is loaded, and its exports are the value that is reported. -/
theorem main_is_complete (ran : s.RanAsMain path origin value)
    (unaltered : Unaltered (requireMain path s).2.rest.history)
    (idle : ∀ part, s.cache.get? origin.key ≠ some (.pending part))
    (settled : ∀ old, s.rest.modules.get? origin.key = some old → (s.rest.record old).loaded = .bool true) :
    ∃ number, RunsWith s path number ∧ Complete (requireMain path s).2.rest origin.key number value := by
  obtain ⟨number, runs, completes⟩ := requireMain_runs ran.visible.clean ran.found ran.loaded
  rcases ran.entry_cases idle with absent | known
  · have unattached : s.rest.modules.get? origin.key = none :=
      Option.eq_none_iff_forall_ne_some.mpr fun old attached =>
        ran.unloaded absent attached (settled old attached)
    rw [unattached] at runs
    exact ⟨number, runs, completes absent value ran.ran⟩
  · obtain ⟨old, attached⟩ := ran.corresponds.resolved _ value known
    rw [attached] at runs
    have complete : Complete s.rest origin.key old value :=
      ⟨attached, settled old attached,
        ran.visible.exports (unaltered.before ran.moved.suffix) known attached⟩
    obtain ⟨t, answered, answer⟩ := dispatch_of_resolved require true ran.target known
    rw [requireMain_eq_dispatch, answer]
    exact ⟨old, runs, answered.complete (ran.visible.filed.there _ old (.attached attached)) complete⟩

/-- If the key of the file is absent but a record is attached under it, which an interrupted load has left
there, then this record is the main one. It is never marked as loaded: a new record runs and is attached. -/
theorem stale_record_is_main (ran : s.RanAsMain path origin value) {old : Nat}
    (absent : s.cache.get? origin.key = none) (attached : s.rest.modules.get? origin.key = some old) :
    RunsWith s path old ∧ ((requireMain path s).2.rest.record old).loaded ≠ .bool true ∧
      ∃ number, Complete (requireMain path s).2.rest origin.key number value := by
  obtain ⟨number, runs, completes⟩ := requireMain_runs ran.visible.clean ran.found ran.loaded
  rw [attached] at runs
  have belongs : s.Belongs origin.key old := .attached attached
  have filed := ran.visible.filed
  have spent : s.Spent old := by
    refine ⟨filed.there _ old belongs, fun key pending => ?_, fun exports created =>
      filed.newest exports created _ old belongs⟩
    have same := filed.unique _ _ old (.pending pending) belongs
    rw [same, absent] at pending
    cases pending
  refine ⟨runs, ?_, number, completes absent value ran.ran⟩
  rw [spent.loaded_eq_of_moved ran.moved ran.unflagged]
  exact ran.unloaded absent attached

/-- While no load of its key is going on, a file that runs has for its main record the one that is attached
under its key in the end, if and only if no record was attached there that is not marked as loaded. -/
theorem main_is_attached_iff (ran : s.RanAsMain path origin value)
    (idle : ∀ part, s.cache.get? origin.key ≠ some (.pending part)) :
    (requireMain path s).2.rest.main = (requireMain path s).2.rest.modules.get? origin.key ↔
      ∀ old, s.rest.modules.get? origin.key = some old → (s.rest.record old).loaded = .bool true := by
  obtain ⟨number, runs, completes⟩ := requireMain_runs ran.visible.clean ran.found ran.loaded
  rcases ran.entry_cases idle with absent | known
  · have complete := completes absent value ran.ran
    rw [runs.ends, complete.attached]
    cases attached : s.rest.modules.get? origin.key with
    | none => exact iff_of_true rfl nofun
    | some old =>
      refine iff_of_false (fun same => ?_) fun settled => ran.unloaded absent attached (settled old rfl)
      have same : old = number := Option.some.inj same
      subst same
      exact (ran.stale_record_is_main absent attached).2.1 complete.loaded
  · obtain ⟨old, attached⟩ := ran.corresponds.resolved _ value known
    obtain ⟨t, answered, answer⟩ := dispatch_of_resolved require true ran.target known
    have modules : (requireMain path s).2.rest.modules = s.rest.modules := by
      rw [requireMain_eq_dispatch, answer]
      exact answered.modules
    rw [runs.ends, modules, attached]
    exact iff_of_true rfl fun _ same => (ran.corresponds.loaded _ _ (attached.trans same)).mpr ⟨value, known⟩

end RanAsMain

/-- An interrupted load of the main module leaves its key absent. If its record has been attached by then,
this record is the main one when the file runs again. -/
theorem interrupted_main_goes_stale {raised : Raised} {old : Nat}
    (found : origin? none (.text (Path.absolute s.rest.host.files.workingDirectory path)) s = some origin)
    (absent : s.cache.get? origin.key = none) (interrupted : (requireMain path s).1 = .interruption raised)
    (attached : (requireMain path s).2.rest.modules.get? origin.key = some old)
    (again : (requireMain path s).2.RanAsMain path origin value) :
    RunsWith (requireMain path s).2 path old ∧
      ((requireMain path (requireMain path s).2).2.rest.record old).loaded ≠ .bool true ∧
        ∃ number, Complete (requireMain path (requireMain path s).2).2.rest origin.key number value := by
  refine again.stale_record_is_main ?_ attached
  obtain ⟨t, number, asks, reaches⟩ := dispatch_asks true found
  obtain ⟨load, _, reached⟩ := reaches require
  rw [← asks.cache] at absent
  rw [requireMain_eq_dispatch, reached] at interrupted ⊢
  rw [Cache.get?_getOrLoad hooks (some number) load absent, interrupted]
  rfl

/-- A host with a script that is interrupted when it runs for the first time. The mark that it leaves at
another module outlives that run. -/
def interruptedOnce : Host :=
  { Host.empty with
    files := ⟨.ofList [("/main.py", .file (Text.encodeUtf8
      ("s = require('store')\ntry:\n    s.seen\nexcept Exception as e:\n    s.seen = 1\n" ++
        "    raise KeyboardInterrupt()\n").toList))], "/"⟩ }

def unmarked : Session :=
  created (.standard "/") (.ofList [("store", ⟨[], [], none, .null⟩)]) interruptedOnce

/-- The script comes to its end when it is run again, but the main record is the one of its first run. -/
theorem script_runs_again : ∃ raised value,
    (requireMain "main.py" unmarked).1 = .interruption raised ∧
    (requireMain "main.py" (requireMain "main.py" unmarked).2).1 = .value value ∧
    RunsWith (requireMain "main.py" unmarked).2 "main.py" 0 ∧
    ((requireMain "main.py" (requireMain "main.py" unmarked).2).2.rest.record 0).loaded ≠ .bool true := by
  let origin : Origin := .loaded (some "file") 0 "/main.py"
  -- the two runs are evaluated together, so that it is done once
  obtain ⟨stopped, attached, found, ends, quiet⟩ :
      (match (requireMain "main.py" unmarked).1 with
        | .interruption raised => raised.fault.kind == "KeyboardInterrupt"
        | _ => false) = true ∧
      (requireMain "main.py" unmarked).2.rest.modules.get? origin.key = some 0 ∧
      origin? none (.text (Path.absolute (requireMain "main.py" unmarked).2.rest.host.files.workingDirectory
        "main.py")) (requireMain "main.py" unmarked).2 = some origin ∧
      (requireMain "main.py" (requireMain "main.py" unmarked).2).1.value?.isSome = true ∧
      ((requireMain "main.py" (requireMain "main.py" unmarked).2).2.rest.history.all fun
        | .flag .. => false
        | _ => true) = true := by decide +kernel
  split at stopped
  · rename_i raised interrupted
    obtain ⟨value, ended⟩ := Option.isSome_iff_exists.mp ends
    have ran := Outcome.value?_eq_some_iff.mp ended
    have visible : (requireMain "main.py" unmarked).2.Visible := by
      rw [requireMain_eq_dispatch]
      exact (Visible.of_settings ..).dispatch ..
    have again : (requireMain "main.py" unmarked).2.RanAsMain "main.py" origin value :=
      { visible, found, ran
        loaded := rfl
        unflagged := fun number loaded member => nomatch List.all_eq_true.mp quiet _ member }
    have first : origin? none (.text (Path.absolute unmarked.rest.host.files.workingDirectory "main.py"))
        unmarked = some origin := by decide +kernel
    have absent : unmarked.cache.get? origin.key = none := by
      rw [unmarked, (created_spec ..).cache]
      rfl
    obtain ⟨runs, unloaded, _⟩ := interrupted_main_goes_stale first absent interrupted attached again
    exact ⟨raised, value, interrupted, ran, runs, unloaded⟩
  · cases stopped

/-- The main record changes only when a file is run as the main module: requests of modules, whatever scripts
do, and tasks of other kinds leave it. -/
theorem main_stays :
    (∀ (s : Session) parent raw, (require parent raw s).2.rest.main = s.rest.main) ∧
    (∀ (s : Session) scope e, (Script.evaluate require e ⟨scope, s⟩).2.session.rest.main = s.rest.main) ∧
    (∀ (s : Session) scope body,
      (Script.runAll require body ⟨scope, s⟩).2.session.rest.main = s.rest.main) ∧
    ∀ (s : Session) source, (runScript source s).2.rest.main = s.rest.main := by
  refine ⟨fun s parent raw => ?_, fun s scope e => ?_, fun s scope body => ?_, fun s source => ?_⟩
  · exact (require_sameMain.agree parent raw s trivial).moved.main
  · exact (Script.evaluate_agree require_sameMain e ⟨scope, s⟩ trivial).moved.main
  · exact (Script.runAll_agree require_sameMain body ⟨scope, s⟩ trivial).moved.main
  · exact (execute_moves (evaluateSource_moves require_sameMain source) false s).moved.main

end Session

end ModuleSystem
