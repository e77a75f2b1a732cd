import ModuleSystem.Proofs.Step.Load
import ModuleSystem.Proofs.Task

/-! # Steps of requests and tasks

A request is answered by steps, however deep the loads are that it leads to, and so is every task. The
requests that modules make on the way are made where the steps lead: if another way to answer requests
does the same there, it is as good as `require`. -/

namespace ModuleSystem

/-- An execution ends with a value that keeps only what may be kept, or with an error that may be
around. -/
def Watch.Ran (w : Watch) (s : Session) (execution : Execution) : Prop :=
  match execution.outcome with
  | .ok value => w.Only s value
  | .error raised => w.around s raised

namespace Session

open ModuleSystem.Action (Flow Ensures Upholds UpholdsAt)
open Cache (getOrLoad)
open Watch (Lawful)

variable {w : Watch} {first s t : Session} {α : Type} {V : Session → α → Prop}
  {one other inner : Script.Requirer} {origin : Origin} {number : Nat}

theorem Loads.of_later {before after : World} {load : SessionAction Value}
    (loads : Loads before inner number origin load) (later : before.Later after) :
    Loads after inner number origin load := by
  cases loads with
  | builtin known => exact .builtin (by rw [later.builtins]; exact known)
  | loaded => exact .loaded

theorem newRecord_fresh (id : String) (filename : Option String) (parent : Option Nat) (s : Session)
    (main : Option Nat) :
    Fresh { s.rest.addRecord id filename parent with main } id s.rest.records.size := by
  have made : World.record { s.rest.addRecord id filename parent with main } s.rest.records.size =
      ⟨.text id, filename, parent, .exports s.rest.heap.exports.size, .bool false, [], true, .empty⟩ :=
    (World.record_addRecord ..).trans (if_pos rfl)
  constructor
  · simp [World.addRecord]
  · rw [made]
  · exact ⟨_, by rw [made]⟩
  · rw [made]
  · rw [made]

/-- The record of a request has just been made, and the load that it is for may start. -/
structure Requested (s : Session) (origin : Origin) (number : Nat) : Prop where
  offers : s.rest.Offers origin
  fresh : Fresh s.rest origin.key number
  created : ∃ exports, s.rest.history.head? = some (.create exports)

theorem Requested.start_moved (requested : Requested s origin number)
    (absent : s.cache.get? origin.key = none) :
    w.Moved s (Cache.start hooks origin.key (some number) s) := by
  have step : w.Step s (Cache.start hooks origin.key (some number) s) :=
    .start requested.offers absent requested.fresh requested.created
  refine .of_step step (fun key entry known => ?_) fun key other known attached => ?_
  · rw [Cache.get?_start, if_neg (Ordered.ne_of_get? absent known), known]
  · rwa [(notes_start origin.key (some number) s).modules]

theorem Requested.made (requested : Requested s origin number) :
    Made (Cache.start hooks origin.key (some number) s) origin.key number := by
  have notes := notes_start origin.key (some number) s
  constructor
  · rw [notes.records, requested.fresh.newest]
    exact Nat.lt_succ_self number
  · rw [notes.record]
    exact requested.fresh.id

/-- A new record, which may also become the main one. -/
theorem created_moved {id : String} {filename : Option String} {parent main : Option Nat}
    (asking : w.Asking s parent)
    (chosen : main = s.rest.main ∨ main = some ((s.rest.modules.get? id).getD s.rest.records.size)) :
    w.Moved s ⟨s.cache, { s.rest.addRecord id filename parent with main }⟩ := by
  have created : w.Moved s ⟨s.cache, s.rest.addRecord id filename parent⟩ := .create asking
  rcases chosen with rfl | rfl
  · exact created
  · exact Flow.trans created (.main (newRecord_fresh id filename parent s s.rest.main))

variable [w.Lawful]

omit [w.Lawful] in
/-- The stride that settles a key leads on from where the key is absent. -/
theorem settled_moved {key : String} {outcome : Outcome Raised Value} (absent : s.cache.get? key = none)
    (moved : w.Moved s t) (cache : first.cache = t.cache) (modules : first.rest.modules = t.rest.modules)
    (step : w.Step t (Cache.settle hooks key (outcome, first)).2) :
    w.Moved s (Cache.settle hooks key (outcome, first)).2 := by
  refine ⟨moved.steps.tail step, fun other entry known => ?_, fun other number known attached => ?_⟩
  · rw [Cache.get?_settle, if_neg (Ordered.ne_of_get? absent known), cache]
    exact moved.kept other entry known
  · rw [settle_modules, modules]
    exact moved.attached other number known attached

/-- The end of a load is a stride, which leads on from where the key is absent. -/
theorem settle_moved {x : SessionAction Value} {result : Outcome Raised Value × Session}
    (absent : s.cache.get? origin.key = none) (begins : w.Moved s first) (offers : first.rest.Offers origin)
    (pending : first.cache.get? origin.key = some (.pending (some number)))
    (loads : Loads first.rest inner number origin x) (ran : x first = result)
    (concludes : w.Concludes (w.Fails origin) origin.key number first result) :
    w.Moved s (Cache.settle hooks origin.key result).2 ∧
      result.1.Ends (w.Only (Cache.settle hooks origin.key result).2)
        (w.around (Cache.settle hooks origin.key result).2)
        (w.around (Cache.settle hooks origin.key result).2) := by
  have brings {world : World} (later : first.rest.Later world) : Brings world origin result.1 :=
    ⟨later.offers offers, inner, number, x, first, loads, later, congrArg Prod.fst ran⟩
  cases concludes with
  | @value t moved clean running =>
    have finishes : SmallStep w.around t (t.finished number) := .finish running.pending
    have own := (clean.holds.records number).exports
    have step := Watch.Step.complete running (brings (moved.later.trans finishes.later))
      (own.only.mono fun _ => Lawful.grows finishes)
    exact ⟨settled_moved absent (Flow.trans begins moved) rfl rfl step, own.mono fun _ =>
      Watch.near_of_small step.small⟩
  | @error t raised moved fails =>
    have known := moved.kept _ _ pending
    have small : Step (fun _ => True) t (Cache.settle hooks origin.key (.error raised, t)).2 := by
      refine .settle known (brings moved.later) trivial (fun _ same => ?_) nofun
      cases same
      exact fails.own
    have meets := Lawful.settles known small (fails.whence.imp_right fun breaks => ⟨rfl, breaks⟩)
    have step : w.Step t (Cache.settle hooks origin.key (.error raised, t)).2 := by
      refine .settle known (brings moved.later) nofun meets fun _ same => ?_
      cases same
      exact fails.own
    exact ⟨settled_moved absent (Flow.trans begins moved) rfl rfl step, meets⟩
  | @interruption t raised moved around =>
    have known := moved.kept _ _ pending
    have small : Step (fun _ => True) t (Cache.settle hooks origin.key (.interruption raised, t)).2 :=
      .settle known (brings moved.later) trivial nofun nofun
    have meets := Lawful.settles known small (.inl around)
    have step : w.Step t (Cache.settle hooks origin.key (.interruption raised, t)).2 :=
      .settle known (brings moved.later) nofun meets nofun
    exact ⟨settled_moved absent (Flow.trans begins moved) rfl rfl step, meets⟩

/-- A request at the cache is answered by steps if the load is that it may start. -/
theorem getOrLoad_upholds {x y : SessionAction Value} (clean : w.Clean s)
    (requested : Requested s origin number) (loads : Loads s.rest inner number origin x)
    (body : s.cache.get? origin.key = none → w.ConcludesAt (w.Fails origin) origin.key number x y
      (Cache.start hooks origin.key (some number) s)) :
    UpholdsAt id w.Moved w.around w.around w.Only
      (getOrLoad hooks origin.key (some number) x) (getOrLoad hooks origin.key (some number) y) s := by
  cases known : s.cache.get? origin.key with
  | none =>
    have starts := requested.start_moved (w := w) known
    obtain ⟨same, concludes⟩ := body known
    obtain ⟨settled, ends⟩ := settle_moved known starts (starts.later.offers requested.offers)
      (Ordered.get?_set_self ..) (loads.of_later starts.later) rfl concludes
    refine ⟨?_, ?_, ?_⟩
    · change getOrLoad hooks origin.key (some number) y s = getOrLoad hooks origin.key (some number) x s
      rw [Cache.getOrLoad_of_absent _ _ _ known, Cache.getOrLoad_of_absent _ _ _ known, same]
    · rw [Cache.getOrLoad_of_absent _ _ _ known]
      exact settled
    · rw [Cache.getOrLoad_of_absent _ _ _ known, Cache.settle_fst]
      exact ends
  | some entry =>
    cases entry with
    | resolved value =>
      have hit (load : SessionAction Value) :=
        Cache.getOrLoad_of_resolved hooks (some number) load known
      have moved : w.Moved s (s.update (noteEvent (.hit origin.key))) := .answer (.hit known)
      exact .of_ran (hit x) (hit y) moved (moved.within (clean.values _ _ known))
    | failed error =>
      have hit (load : SessionAction Value) :=
        Cache.getOrLoad_of_failed hooks (some number) load known
      have moved : w.Moved s (s.update (noteEvent (.failureHit origin.key))) := .answer (.failureHit known)
      exact .of_ran (hit x) (hit y) moved (moved.around (clean.errors _ _ known).1)
    | pending part =>
      cases part with
      | none => exact absurd known (clean.parts _)
      | some part =>
        have lent (load : SessionAction Value) :=
          Cache.getOrLoad_of_pending hooks (some number) load known
        have noted : w.Moved s (s.update (noteEvent (.cycle origin.key part))) := .answer (.cycle known)
        have lends : w.Moved s (lendExports part (s.update (noteEvent (.cycle origin.key part)))).2 :=
          Flow.trans noted (.lend known)
        exact .of_ran (lent x) (lent y) lends ((lends.clean clean).holds.records part).exports

/-- Two loads of one origin that get their requests answered alike do the same steps. -/
theorem Loads.concludes {x y : SessionAction Value} (clean : w.Clean s) (answers : w.answers one)
    (alike : Script.AlikeFrom w.walk s one other) (offers : s.rest.Offers origin)
    (begun : Begun s origin.key number) (made : Made s origin.key number)
    (loads : Loads s.rest one number origin x) (alsoLoads : Loads s.rest other number origin y) :
    w.ConcludesAt (w.Fails origin) origin.key number x y s := by
  cases loads with
  | builtin known =>
    rw [alsoLoads.eq_builtin known]
    exact loadBuiltin_concludes clean answers alike known begun made
  | loaded =>
    cases alsoLoads with
    | loaded => exact load_concludes clean answers alike offers begun made

theorem newRecord_orderly (id : String) (filename : Option String) {parent : Option Nat}
    (asking : w.Asking first parent) :
    Orderly w first (fun t number => w.near t (.record number)) (newRecord id filename parent) := by
  intro s clean reached
  have moved : w.Moved s ⟨s.cache, s.rest.addRecord id filename parent⟩ := .create (reached.asking asking)
  exact .of_ran (t := ⟨s.cache, s.rest.addRecord id filename parent⟩) rfl rfl moved fun _ => by
    simp [World.addRecord]

/-- A request that gets as far as that reaches the cache by steps, with a new record for its origin, which
has become the main one if the request is for the main module and no other record is attached. -/
theorem dispatch_moved {parent : Option Nat} {raw : Value} (clean : w.Clean s) (asMain : Bool)
    (asking : w.Asking s parent) (found : origin? parent raw s = some origin) :
    ∃ t number, w.Moved s t ∧ t.cache = s.cache ∧ Requested t origin number ∧
      (asMain = true → origin.isLoaded = true →
        t.rest.main = some ((s.rest.modules.get? origin.key).getD number)) ∧
      ∀ inner, ∃ load, Loads s.rest inner number origin load ∧
        dispatch inner asMain parent raw s = getOrLoad hooks origin.key (some number) load t := by
  obtain ⟨t, filename, main, whence, chosen, reaches⟩ := dispatch_of_origin asMain found
  have resolved : w.Moved s t ∧ Quiet s t := by
    rcases whence with rfl | rfl
    · exact ⟨Flow.refl t, Flow.refl t⟩
    · exact ⟨(resolve_orderly raw parent s clean (Flow.refl s)).moved, (resolve_moves raw parent s).moved⟩
  have created : w.Moved t ⟨t.cache, { t.rest.addRecord origin.key filename parent with main }⟩ := by
    refine created_moved (resolved.1.asking asking) ?_
    split at chosen
    · exact .inr chosen
    · exact .inl chosen
  have moved := Flow.trans resolved.1 created
  refine ⟨_, _, moved, resolved.2.cache, ⟨moved.later.offers (origin?_offers found),
    newRecord_fresh origin.key filename parent t main, _, rfl⟩, fun isMain isLoaded => ?_, reaches⟩
  rw [if_pos (by rw [isMain, isLoaded]; rfl), resolved.2.modules] at chosen
  exact chosen

theorem dispatch_upheld (answers : w.answers one) (alike : Script.AlikeFrom w.walk first one other)
    (asMain : Bool) {parent : Option Nat} (asking : w.Asking first parent) (raw : Value) :
    Upheld w first w.Only (dispatch one asMain parent raw) (dispatch other asMain parent raw) := by
  intro s clean reached
  have resolves := resolve_orderly raw parent s clean reached
  cases found : origin? parent raw s with
  | none =>
    rcases dispatch_of_no_origin asMain found with ⟨shown, raises⟩ | ⟨result, unresolved, ends, ran⟩
    · have refuses : Orderly w first w.Only (raise (.identifierNotText shown)) :=
        Walk.raise_orderly (.foreign rfl)
      exact (refuses s clean reached).of_eq (raises one) (raises other)
    · have ended := resolves.bind (f := fun _ => Action.pure Value.null)
        (g := fun _ => Action.pure Value.null) (W := w.Only) fun _ t _ moved _ =>
          Walk.give (Value.within_scalar _) t (moved.clean clean) (Flow.refl t)
      exact ended.of_eq ((ends one).trans ran.symm) ((ends other).trans ran.symm)
  | some origin =>
    obtain ⟨t, number, moved, _, requested, _, reaches⟩ :=
      dispatch_moved clean asMain (reached.asking asking) found
    obtain ⟨x, loads, reachesOne⟩ := reaches one
    obtain ⟨y, alsoLoads, reachesOther⟩ := reaches other
    refine (getOrLoad_upholds (moved.clean clean) requested (loads.of_later moved.later)
      fun absent => ?_).onward moved reachesOne reachesOther
    have starts := Flow.trans moved (requested.start_moved absent)
    exact (loads.of_later starts.later).concludes (starts.clean clean) answers
      (alike.later (Flow.trans reached starts)) (starts.later.offers (origin?_offers found))
      ⟨Ordered.get?_set_self .., rfl⟩ requested.made (alsoLoads.of_later starts.later)

/-- Requests inside of loads are answered as a watch allows. -/
abbrev Nested (w : Watch) : Prop := ∀ depth, w.answers (requireWithin refuse depth false)

theorem requireWithin_orderly (nested : Nested w) (depth : Nat) (asMain : Bool) {parent : Option Nat}
    (asking : w.Asking first parent) (raw : Value) :
    Orderly w first w.Only (requireWithin refuse depth asMain parent raw) := by
  induction depth generalizing first asMain parent raw with
  | zero =>
    have marks : Orderly w first w.around (mark .nestingTooDeep) := Walk.mark_orderly fun _ _ _ _ =>
      Lawful.admits (.foreign rfl)
    exact .bind marks fun _ _ _ around => .interrupt fun _ _ moved => moved.around around
  | succ depth ih =>
    exact dispatch_upheld (nested depth) (fun t _ parent raw asking _ => ih false asking raw) asMain
      asking raw

/-- A request of a module is answered by steps. -/
theorem require_orderly (nested : Nested w) {parent : Option Nat} (asking : w.Asking first parent)
    (raw : Value) : Orderly w first w.Only (require parent raw) := fun s clean reached =>
  (requireWithin_orderly nested _ false asking raw s clean reached).of_eq (require_eq parent raw s)
    (require_eq parent raw s)

theorem require_alikeFrom (nested : Nested w) (first : Session) :
    Script.AlikeFrom w.walk first require require :=
  fun _ _ _ raw asking _ => require_orderly nested asking raw

theorem dispatch_orderly (nested : Nested w) (answers : w.answers require) (asMain : Bool)
    {parent : Option Nat} (asking : w.Asking first parent) (raw : Value) :
    Orderly w first w.Only (dispatch require asMain parent raw) :=
  dispatch_upheld answers (require_alikeFrom nested first) asMain asking raw

theorem requireMain_orderly (nested : Nested w) (path : String) :
    Orderly w first w.Only (requireMain path) := fun s clean reached =>
  (requireWithin_orderly nested _ true w.asking_none _ s clean reached).of_eq (requireMain_eq path s)
    (requireMain_eq path s)

/-- Another way to answer requests that does the same wherever steps lead, for values that keep only what
may be kept there. -/
theorem alikeFrom_of_same (nested : Nested w)
    (same : ∀ t, w.Moved s t → ∀ parent raw, w.Only t raw → inner parent raw t = require parent raw t) :
    Script.AlikeFrom w.walk s require inner := fun _ onward parent raw asking only u clean moved =>
  (require_orderly nested asking raw u clean moved).of_eq rfl
    (same u (Flow.trans onward moved) parent raw (moved.within only))

/-- The requests that are made on the way to an answer are made where steps lead: another way to answer
them that does the same there leads to the same answer. -/
theorem dispatch_congr (nested : Nested w) (answers : w.answers require) (clean : w.Clean s)
    (asMain : Bool) {parent : Option Nat} (asking : w.Asking s parent) (raw : Value)
    (same : ∀ t, w.Moved s t → ∀ parent raw, w.Only t raw → inner parent raw t = require parent raw t) :
    dispatch inner asMain parent raw s = dispatch require asMain parent raw s :=
  (dispatch_upheld answers (alikeFrom_of_same nested same) asMain asking raw s clean (Flow.refl s)).agree.symm

/-! ## Tasks -/

theorem execute_orderly {action : SessionAction Value} (orderly : Orderly w first w.Only action)
    (withMain : Bool) : Orderly w first w.Ran (execute action withMain) := by
  refine .bind orderly.attempt fun outcome _ _ ends => .bind world_ensures fun _ _ moved _ => ?_
  cases outcome with
  | value => exact .pure fun _ _ later => (Flow.trans moved later).within ends
  | error => exact .pure fun _ _ later => (Flow.trans moved later).around ends
  | interruption => exact .interrupt fun _ _ later => (Flow.trans moved later).around ends

theorem scriptScope_orderly : Orderly w first (fun t => Ordered.Within (w.near t)) scriptScope := by
  refine .bind world_ensures fun current t _ got => ?_
  obtain ⟨rfl, clean⟩ := got
  split
  · exact .pure fun _ _ moved => (clean.holds.scope _ ‹_›).mono fun _ => moved.near
  · refine .bind (newRecord_orderly _ _ w.asking_none) fun number _ made own => ?_
    refine .bind (exportsOf_ensures number) fun exports u got holds => ?_
    have scope (v : Session) (moved : w.Moved u v) : Ordered.Within (w.near v)
        (.ofList [("__name__", .text "__main__"), ("module", .record number), ("exports", exports),
          ("require", .require none)]) :=
      Ordered.within_ofList (by simp [moved.within holds, (Flow.trans got moved).near own])
    exact .bind (change_ensures fun _ _ moved => .scope (scope _ moved)) fun _ _ moved _ =>
      .pure fun _ _ later => scope _ (Flow.trans moved later)

theorem onScript_upheld {scope : Ordered Value} (within : scope.Within (w.near first))
    (keeps : ∀ s t a, w.Moved s t → V s a → V t a) {x y : Script.FrameAction α}
    (upheld : Script.FrameUpheld w.walk ⟨scope, first⟩ V x y) :
    Upheld w first V (onScript scope x) (onScript scope y) := by
  intro s clean reached
  have here : scope.Within (w.near s) := within.mono fun _ => reached.near
  obtain ⟨same, moved, ends⟩ := upheld ⟨scope, s⟩ ⟨clean, here⟩ ⟨reached, fun _ => here⟩
  have kept : w.Moved _ _ := .scope (moved.scope here)
  refine ⟨?_, Flow.trans moved.session kept, ?_⟩
  · exact congrArg (fun ended => (ended.1, ended.2.session.update fun world =>
      { world with scope := some ended.2.scope })) same
  exact ends.mono (fun _ => keeps _ _ _ kept) (fun _ => kept.around) fun _ => kept.around

theorem evaluateSource_upheld (alike : Script.AlikeFrom w.walk first one other) (source : Datum) :
    Upheld w first w.Only (evaluateSource one source) (evaluateSource other source) := by
  refine .bind scriptScope_orderly fun scope _ looked holds => ?_
  refine .bind (scriptText_orderly source) fun text _ moved _ => ?_
  have reached := Flow.trans looked moved
  have within (t : Session) (later : w.Moved _ t) : scope.Within (w.near t) :=
    holds.mono fun _ => (Flow.trans moved later).near
  split
  · exact onScript_upheld (V := w.Only) (within _ (Flow.refl _)) (fun _ _ _ later => later.within)
      (Script.evaluate_upheld (alike.later reached) _)
  · refine .bind (readStatements_orderly source) fun statements t read _ => ?_
    exact .bind (onScript_upheld (V := fun _ _ => True) (within t read) (fun _ _ _ _ => id)
      (Script.runSource_upheld (alike.later (Flow.trans reached read)) statements))
      fun _ _ _ _ => Walk.give (by simp)

theorem runMain_orderly (nested : Nested w) (path : String) : Orderly w first w.Ran (runMain path) :=
  execute_orderly (requireMain_orderly nested path) true

theorem runScript_orderly (nested : Nested w) (source : Datum) :
    Orderly w first w.Ran (runScript source) :=
  execute_orderly (evaluateSource_upheld (require_alikeFrom nested first) source) false

/-- A task is done by steps. -/
theorem perform_moved (nested : Nested w) (clean : w.Clean s) (task : Task)
    (asking : w.Asking s task.parent?) : w.Moved s (s.perform task) := by
  cases task with
  | require parent raw => exact (require_orderly nested asking raw s clean (Flow.refl s)).moved
  | runMain path => exact (runMain_orderly nested path s clean (Flow.refl s)).moved
  | runScript source => exact (runScript_orderly nested source s clean (Flow.refl s)).moved

/-- A task asks for modules only where steps lead. -/
theorem asked_moved (nested : Nested w) (answers : w.answers require) (clean : w.Clean s) {task : Task}
    (asking : w.Asking s task.parent?)
    (elsewhere : ∀ u, u ≠ t → ∀ parent raw, inner parent raw u = require parent raw u)
    (differs : performWith inner s task ≠ s.perform task) : w.Moved s t := by
  by_contra far
  have same (u : Session) (moved : w.Moved s u) (parent : Option Nat) (raw : Value) (_ : w.Only u raw) :
      inner parent raw u = require parent raw u := elsewhere u (fun here => far (here ▸ moved)) parent raw
  refine differs ((Eq.trans ?_ (performWith_require s task)))
  cases task with
  | require parent raw => exact congrArg Prod.snd (dispatch_congr nested answers clean false asking raw same)
  | runMain path => exact congrArg Prod.snd (dispatch_congr nested answers clean true asking _ same)
  | runScript source =>
    have alike := alikeFrom_of_same nested same
    exact congrArg Prod.snd (evaluateSource_upheld alike source s clean (Flow.refl s)).agree.symm

theorem Asks.moved (asks : Asks s t) (nested : Nested w) (answers : w.answers require) (clean : w.Clean s)
    (untracked : ¬ w.tracks) : w.Moved s t := by
  obtain ⟨task, inner, elsewhere, differs⟩ := asks
  exact asked_moved nested answers clean (w.asking_of_untracked untracked) elsewhere differs

/-- Any number of tasks is done by steps. -/
theorem after_moved (nested : Nested w) (clean : w.Clean s) (untracked : ¬ w.tracks) (tasks : List Task) :
    w.Moved s (s.after tasks) := by
  induction tasks generalizing s with
  | nil => exact Flow.refl s
  | cons task rest ih =>
    have moved := perform_moved nested clean task (w.asking_of_untracked untracked)
    exact Flow.trans moved (ih (moved.clean clean))

/-- Whatever tasks are done, they are done by steps in which anything may be around. -/
theorem after_steps (clean : Watch.everything.Clean s) (tasks : List Task) :
    Steps (fun _ => True) s (s.after tasks) := (after_moved (fun _ => trivial) clean id tasks).small

end Session

end ModuleSystem
