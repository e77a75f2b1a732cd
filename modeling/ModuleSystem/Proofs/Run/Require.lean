import ModuleSystem.Proofs.Request

/-! # Runs of requests

A request is answered from the cache or by a load, so it is a run. Inside a load there is less room
left than around it, and so it does not matter how requests are answered beyond as many nested loads as
there is room for: `require` is the recursive function that answers every request of a module as the
module's own request was answered. -/

namespace ModuleSystem.Session

open ModuleSystem.Action (Moves Agree AgreeAt Closed Flow)
open Cache (getOrLoad)

variable {loadings : List Loading} {depth : Nat} {s : Session} {world : World}
  {first second : Script.Requirer}

/-- However a load has ended, its error is remembered once its key is settled. -/
theorem fair_settle {key : String} {outcome : Outcome Raised Value} (fair : outcome.Fair s) :
    (Cache.settle hooks key (outcome, s)).1.Fair (Cache.settle hooks key (outcome, s)).2 := by
  cases outcome with
  | value => trivial
  | error error => exact .inr ⟨key, s.cache.get?_set_self key _⟩
  | interruption => exact fair

/-- A request at the cache agrees with another one if their loads do where they start. The loads may go
along another relation than the requests, as long as the end of a load leads back to it. -/
theorem getOrLoad_agree {S R : Session → Session → Prop} [Tolerant R] {key : String} {number : Nat}
    {x y : SessionAction Value}
    (body : s.cache.get? key = none → AgreeAt S x y (Cache.start hooks key (some number) s))
    (settles : ∀ outcome t, s.cache.get? key = none →
      x (Cache.start hooks key (some number) s) = (outcome, t) →
      S (Cache.start hooks key (some number) s) t → outcome.Fair t →
      R s (Cache.settle hooks key (outcome, t)).2) :
    AgreeAt R (getOrLoad hooks key (some number) x) (getOrLoad hooks key (some number) y) s := by
  cases known : s.cache.get? key with
  | none =>
    have absent (load : SessionAction Value) :=
      Cache.getOrLoad_of_absent hooks (some number) load known
    cases ran : x (Cache.start hooks key (some number) s) with
    | mk outcome t =>
      obtain ⟨moved, fair⟩ := (body known).ended ran
      have alsoRan := (body known).same.symm.trans ran
      exact .of_ran ((absent x).trans (by rw [ran])) ((absent y).trans (by rw [alsoRan]))
        (settles outcome t known ran moved fair) (fair_settle fair)
  | some entry =>
    cases entry with
    | resolved value =>
      have hit (load : SessionAction Value) :=
        Cache.getOrLoad_of_resolved hooks (some number) load known
      exact .of_ran (hit x) (hit y) (Tolerant.answer s (.hit known)) trivial
    | failed error =>
      have hit (load : SessionAction Value) :=
        Cache.getOrLoad_of_failed hooks (some number) load known
      exact .of_ran (hit x) (hit y) (Tolerant.answer s (.failureHit known)) (.inr ⟨key, known⟩)
    | pending part =>
      cases part with
      | none =>
        have refused (load : SessionAction Value) :=
          Cache.getOrLoad_of_partless hooks (some number) load known
        obtain ⟨_, raised, fair⟩ := raise_moves (R := R) (α := Value)
          (.cyclicRequire (.text key)) (s.update (noteEvent (.deadEnd key)))
        exact .of_ran (refused x) (refused y) (Flow.trans (Tolerant.answer s (.deadEnd known)) raised) fair
      | some part =>
        have lent (load : SessionAction Value) :=
          Cache.getOrLoad_of_pending hooks (some number) load known
        have noted : R s (s.update (noteEvent (.cycle key part))) := Tolerant.answer s (.cycle known)
        exact .of_ran (lent x) (lent y) (Flow.trans noted (Tolerant.lend _ known)) trivial

theorem Inside.start {key : String} {number : Nat} (later : world.Later s.rest)
    (absent : s.cache.get? key = none) (room : s.room < depth + 1) :
    Inside world ⟨key, number⟩ depth (Cache.start hooks key (some number) s) where
  later := later.trans (Run.start_later ..)
  pending := s.cache.get?_set_self ..
  room sourced := by
    have less := room_start (some number) ((later.hasSource_iff key).mpr sourced) absent
    omega

/-- Two loads that agree inside agree as answers to a request. -/
theorem load_agreeAt {key : String} {number object : Nat} {x y : SessionAction Value}
    (later : world.Later s.rest) (ready : Ready loadings (depth + 1) s)
    (created : (s.rest.records[number]?).map ModuleRecord.exports = some (.exports object))
    (delivers : Delivers number x) (body : AgreeInside world ⟨key, number⟩ loadings depth x y) :
    AgreeAt (Run loadings) (getOrLoad hooks key (some number) x)
      (getOrLoad hooks key (some number) y) s := by
  refine getOrLoad_agree (fun absent => body _ (.start later absent ready.room))
    fun outcome t absent ran run fair => ?_
  refine .load (.refl loadings s) absent ready.sourced created run (fun value same => ?_) fair
  have delivered := delivers (Cache.start hooks key (some number) s) value
  rw [ran] at delivered
  exact delivered same

/-- What two levels of requests may load for an origin agrees, and delivers the exports of its record. -/
theorem Loads.agree {origin : Origin} {number : Nat} {x y : SessionAction Value}
    (agree : AgreeWithin depth first second) (offers : world.Offers origin)
    (loads : Loads world first number origin x) (alsoLoads : Loads world second number origin y) :
    AgreeInside world ⟨origin.key, number⟩ loadings depth x y ∧ Delivers number x := by
  cases loads with
  | @builtin name builtin known =>
    rw [alsoLoads.eq_builtin known]
    have sourced : world.HasSource name := .builtin (by simp [Ordered.contains, known])
    exact ⟨loadBuiltin_agree builtin Inside.stages (agree.alike sourced), .loadBuiltin _ _ _ _⟩
  | loaded =>
    cases alsoLoads with
    | loaded =>
      exact ⟨load_agree Inside.stages fun _ _ _ inside fetched readable =>
        agree.alike (offers.hasSource inside.later fetched readable), .load _ _ _⟩

/-- One level of requests agrees if the levels below do. -/
theorem dispatch_agree (agree : AgreeWithin depth first second) (asMain : Bool) :
    AgreeWithin (depth + 1) (dispatch first asMain) (dispatch second asMain) := by
  intro loadings parent raw s ready
  refine dispatch_agreeAt fun origin filename main t x y offers resolved _ loads alsoLoads => ?_
  have created : Run loadings t ⟨t.cache, t.rest.addRecord origin.key filename parent⟩ :=
    .step (.refl loadings t) .create
  have made : Run loadings t ⟨t.cache, { t.rest.addRecord origin.key filename parent with main }⟩ :=
    created.step .main
  have run := resolved.trans made
  have exports : ((t.rest.addRecord origin.key filename parent).records[t.rest.records.size]?).map
      ModuleRecord.exports = some (.exports t.rest.heap.exports.size) := by
    simp [World.addRecord]
  obtain ⟨body, delivers⟩ := Loads.agree agree offers loads alsoLoads
  exact ⟨made, load_agreeAt run.later (Ready.closed ready run) exports delivers body⟩

/-- With room for all loads it does not matter how requests beyond them are answered. -/
theorem requireWithin_agree (beyond other : Script.Requirer) {depth n m : Nat} (enough : depth ≤ n)
    (alsoEnough : depth ≤ m) (asMain : Bool) :
    AgreeWithin depth (requireWithin beyond n asMain) (requireWithin other m asMain) := by
  induction depth generalizing n m asMain with
  | zero => exact fun _ _ _ _ ready => absurd ready.room (Nat.not_lt_zero _)
  | succ depth ih =>
    obtain ⟨n, rfl⟩ := Nat.exists_eq_add_of_le' enough
    obtain ⟨m, rfl⟩ := Nat.exists_eq_add_of_le' alsoEnough
    exact dispatch_agree (ih (Nat.le_add_left ..) (Nat.le_add_left ..) false) asMain

/-! ## Requests of modules -/

theorem require_eq (parent : Option Nat) (raw : Value) (s : Session) :
    require parent raw s = requireWithin refuse (nestingBound s.rest) false parent raw s := rfl

theorem requireMain_eq (path : String) (s : Session) :
    requireMain path s = requireWithin refuse (nestingBound s.rest) true none
      (.text (Path.absolute s.rest.host.files.workingDirectory path)) s := by
  simp only [requireMain, Action.bind_apply, Session.world, Action.gets]

/-- Inside the loads that are going on, requests are answered as `require` answers them. -/
theorem require_agreeWithin (beyond : Script.Requirer) {n : Nat} (enough : depth ≤ n) :
    AgreeWithin depth (requireWithin beyond n false) require := by
  intro loadings parent raw s ready
  have fits : s.room + 1 ≤ n := Nat.le_trans ready.room enough
  have covers : AgreeWithin (s.room + 1) (requireWithin beyond n false)
      (requireWithin refuse (nestingBound s.rest) false) :=
    requireWithin_agree beyond refuse fits s.room_lt_nestingBound false
  exact (covers loadings parent raw s ⟨ready.sourced, Nat.lt_succ_self _⟩).of_eq rfl
    (require_eq parent raw s)

/-- With room for all loads, requests are answered by one level of requests around `require`. -/
theorem requireWithin_eq_dispatch (beyond : Script.Requirer) {n : Nat} (enough : s.room < n)
    (asMain : Bool) (parent : Option Nat) (raw : Value) :
    requireWithin beyond n asMain parent raw s = dispatch require asMain parent raw s := by
  obtain ⟨more, rfl⟩ := Nat.exists_eq_add_of_lt enough
  have below : AgreeWithin s.room (requireWithin beyond (s.room + more) false) require :=
    require_agreeWithin beyond (Nat.le_add_right ..)
  exact (dispatch_agree below asMain [] parent raw s ⟨by simp, Nat.lt_succ_self _⟩).same

/-- A request is answered by one level of requests around `require` itself. -/
theorem require_eq_dispatch : require = dispatch require false := by
  funext parent raw s
  rw [require_eq]
  exact requireWithin_eq_dispatch refuse s.room_lt_nestingBound false parent raw

theorem requireMain_eq_dispatch (path : String) (s : Session) :
    requireMain path s = dispatch require true none
      (.text (Path.absolute s.rest.host.files.workingDirectory path)) s := by
  rw [requireMain_eq]
  exact requireWithin_eq_dispatch refuse s.room_lt_nestingBound true none _

/-- Requests are runs inside whatever loads of keys with a source are going on. -/
theorem dispatch_runs (asMain : Bool) (parent : Option Nat) (raw : Value)
    (sourced : ∀ loading ∈ loadings.head?, s.rest.HasSource loading.key) :
    AgreeAt (Run loadings) (dispatch require asMain parent raw)
      (dispatch require asMain parent raw) s := by
  have below : AgreeWithin s.room require require := fun loadings parent raw t ready =>
    have agree := require_agreeWithin refuse (Nat.le_refl s.room) loadings parent raw t ready
    agree.of_eq agree.same.symm rfl
  exact dispatch_agree below asMain loadings parent raw s ⟨sourced, Nat.lt_succ_self _⟩

theorem require_moves (parent : Option Nat) (raw : Value) :
    Moves (Run []) (require parent raw) := by
  rw [require_eq_dispatch]
  exact fun s => dispatch_runs false parent raw (by simp)

theorem requireMain_moves (path : String) : Moves (Run []) (requireMain path) := fun s =>
  (dispatch_runs true none _ (by simp)).of_eq (requireMain_eq_dispatch path s)
    (requireMain_eq_dispatch path s)

end ModuleSystem.Session
