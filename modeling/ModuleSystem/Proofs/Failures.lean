import ModuleSystem.Proofs.Agreement

/-! # Failures name their origin

The failure of a loader or of an evaluation tells the key that it belongs to, and it is passed on
unchanged. So if nothing but the system fails loaders and evaluations, whoever finds such a failure in the
cache finds it under the key that it tells, too, and there it has arisen. This is watched along the steps
of a session: errors that are kept by values are raised again later, but never before the cache knows
them. A chain of requests that nobody breaks leaves one failure for all of its modules. -/

namespace ModuleSystem

open ModuleSystem.Action (Flow)
open Identifier (canonicalId)

namespace Fault

variable {fault : Fault} {id : Datum}

theorem isRequireError_of_failed (failed : fault.failed? = some id) : fault.isRequireError = true := by
  unfold failed? at failed
  split at failed
  · rfl
  · rfl
  · cases failed

theorem failed?_of_cause? {cause : Fault} (kept : fault.cause? = some cause) :
    ∃ id, fault.failed? = some id := by
  unfold cause? at kept
  split at kept
  · exact ⟨_, rfl⟩
  · exact ⟨_, rfl⟩
  · cases kept

theorem failed?_of_foreign (foreign : fault.Foreign) : fault.failed? = none := by
  cases failed : fault.failed? with
  | none => rfl
  | some id => exact absurd (foreign.symm.trans (isRequireError_of_failed failed)) (by decide)

instance : Broad Foreign := ⟨fun foreign => foreign⟩

/-- The report of a failure tells its kind and what has failed. -/
theorem ofFault_of_failed (failed : fault.failed? = some id) :
    ∃ details, Report.ofFault fault = fault.kind ++ ": " ++ id.plain ++ "\n" ++ details := by
  cases fault with
  | loaderFailure other cause chained =>
    cases failed
    refine ⟨cause.kind ++ ": " ++ cause.message, ?_⟩
    change "LoaderFailure: " ++ id.plain ++ "\n" ++ cause.kind ++ ": " ++ cause.message =
      "LoaderFailure: " ++ id.plain ++ "\n" ++ (cause.kind ++ ": " ++ cause.message)
    simp only [String.append_assoc]
  | evaluationFailure other cause chained =>
    cases failed
    exact ⟨Text.stripEnd (Report.trace cause chained), rfl⟩
  | _ => cases failed

end Fault

namespace Session

variable {s t : Session} {origin : Origin} {raised : Raised}

/-- Where a session gets whose surroundings raise no errors of the system of modules, and whose loaders
resolve whatever they are asked: something is set up, tasks are done, and on the way modules are asked
for. -/
inductive Trusting : Session → Prop
  | empty {host : Host} (raises : host.Raises Fault.Foreign) : Trusting (Session.empty host)
  | set_up {s t : Session} (reached : Trusting s) (setUp : SetUp Fault.Foreign s t)
      (resolves : ∀ number, (loaderOf t.rest number).ResolvesBut fun _ => False) : Trusting t
  | after {s : Session} (reached : Trusting s) (tasks : List Task) : Trusting (s.after tasks)
  | asks {s t : Session} (reached : Trusting s) (asks : Asks s t) : Trusting t

/-- Steps lead to a session from where such a session gets. -/
def Passed (s : Session) : Prop := ∃ start : Session, start.Trusting ∧ Steps (fun _ => True) start s

/-- Requests are answered by `require`, or as it has requests answered that are made inside of loads. -/
def Answering (inner : Script.Requirer) : Prop :=
  inner = require ∨ ∃ depth, inner = requireWithin refuse depth false

/-- An error is the failure of an origin: the cache knows it by the key of the origin, and it has arisen
in the load of the origin. -/
structure FailedBy (s : Session) (origin : Origin) (raised : Raised) : Prop where
  cached : s.cache.get? origin.key = some (.failed raised)
  arises : Arises Passed Answering s origin raised

/-- What an error tells has failed by it. -/
def Told (s : Session) (raised : Raised) : Prop :=
  ∀ id, raised.fault.failed? = some id → ∃ origin : Origin, id = .text origin.key ∧ s.FailedBy origin raised

theorem Told.step (told : s.Told raised) (step : Step (fun _ => True) s t) : t.Told raised := by
  intro id failed
  obtain ⟨origin, same, cached, arises⟩ := told id failed
  exact ⟨origin, same, step.settled cached nofun, arises.later (.single (.inl step))⟩

/-- Scripts have made no failures of loaders and of evaluations. -/
def Unforged (history : List Happening) : Prop := ∀ fault, .make fault ∈ history → fault.failed? = none

theorem Unforged.before {early late : List Happening} (unforged : Unforged late) (suffix : early <:+ late) :
    Unforged early := fun fault made => unforged fault (suffix.subset made)

/-- Modules keep their ids, and only the system fails loaders and evaluations. -/
structure Genuine (history : List Happening) : Prop where
  unrenamed : Unrenamed history
  unforged : Unforged history

theorem Genuine.before {early late : List Happening} (genuine : Genuine late) (suffix : early <:+ late) :
    Genuine early := ⟨genuine.unrenamed.before suffix, genuine.unforged.before suffix⟩

/-- What an error tells has failed by it, and its cause is no error of the system. -/
structure Traced (s : Session) (raised : Raised) : Prop where
  told : s.Told raised
  cause : ∀ cause, raised.fault.cause? = some cause → cause.Foreign

theorem Traced.of_untold (untold : raised.fault.failed? = none) : s.Traced raised where
  told id failed := by
    rw [untold] at failed
    cases failed
  cause cause kept := by
    obtain ⟨id, failed⟩ := Fault.failed?_of_cause? kept
    rw [untold] at failed
    cases failed

theorem Traced.step (traced : s.Traced raised) (step : Step (fun _ => True) s t) : t.Traced raised :=
  ⟨traced.told.step step, traced.cause⟩

/-- Errors may be around that are told by the cache, unless records have been given other ids or scripts
have made failures. -/
def tracing : Watch where
  visits := Passed
  around s raised := Genuine s.rest.history → s.Traced raised
  outside := Fault.Foreign
  unresolved _ := False
  answers := Answering
  tracks := False

instance : tracing.Lawful where
  grows step around genuine :=
    (around (genuine.before step.suffix)).step (step.mono fun _ _ _ => trivial)
  goesOn := by
    rintro s t step ⟨start, trusting, steps⟩
    exact ⟨start, trusting, steps.trans (step.small.mono fun _ _ _ => trivial)⟩
  broad := inferInstanceAs (Fault.Broad Fault.Foreign)
  admits {s raised} admits _ := by
    refine .of_untold ?_
    generalize raised.fault = fault at admits
    cases admits with
    | foreign foreign | outside foreign => exact Fault.failed?_of_foreign foreign
    | unresolved impossible | resolving impossible => exact impossible.elim
    | unsupportedProtocol | noBareLoader => rfl
  makes _ _ genuine := .of_untold (genuine.unforged _ (List.mem_cons_self ..))
  causes _ around kept _ genuine := .of_untold (Fault.failed?_of_foreign ((around genuine).cause _ kept))
  settles {s origin number outcome raised} pending step whence genuine := by
    have before := genuine.before step.suffix
    rcases whence with around | ⟨rfl, breaks⟩
    · exact (around before).step step
    · refine ⟨fun id failed => ?_, fun cause kept => ?_⟩
      · rw [breaks.named before.unrenamed] at failed
        cases failed
        exact ⟨origin, rfl, (Cache.get?_settle ..).trans (if_pos rfl),
          breaks.arises.later (.single (.inl step))⟩
      · cases breaks.arises with
        | unread _ _ _ _ foreign wraps | raises _ _ _ _ _ foreign wraps =>
          rw [wraps] at kept
          cases kept
          exact foreign

theorem nested_tracing : Nested tracing := fun depth => .inr ⟨depth, rfl⟩

theorem Trusting.clean (reached : s.Trusting) : tracing.Clean s := by
  induction reached with
  | empty raises => exact clean_empty raises ⟨_, .empty raises, .refl⟩
  | @set_up s t reached setUp resolves ih =>
    refine setUp.clean ih ⟨t, .set_up reached setUp resolves, .refl⟩ (fun raised around genuine => ?_)
      (setUp.raises ih.raises) resolves False.elim
    rw [setUp.history] at genuine
    obtain ⟨told, foreign⟩ := around genuine
    refine ⟨fun id failed => ?_, foreign⟩
    obtain ⟨origin, same, cached, arises⟩ := told id failed
    exact ⟨origin, same, setUp.cache ▸ cached, arises.later (.single (.inr ⟨_, setUp⟩))⟩
  | after _ tasks ih => exact (after_moved nested_tracing ih id tasks).clean ih
  | asks _ asks ih => exact (asks.moved nested_tracing (.inl rfl) ih id).clean ih

/-! ## Chains -/

/-- A request whose module fails by itself, because its source cannot be read or its code raises an error
that is not of the system, or by the request for the next module of a chain: the code of the module asks
for that in some session, and ends with the error that it gets. -/
inductive Chain : Session → Bool → Option Nat → Value → List String → Raised → Prop
  | unread {s u v : Session} {asMain : Bool} {parent : Option Nat} {raw : Value} {protocol : Option String}
      {loader : Nat} {resolved : String} {raised : Raised} {complete : Datum → SessionAction Value}
      (found : origin? parent raw s = some (.loaded protocol loader resolved))
      (absent : s.cache.get? (canonicalId protocol resolved) = none)
      (loads : dispatch require asMain parent raw s = Cache.settle hooks (canonicalId protocol resolved)
        ((fetchSource (placeOf protocol loader resolved) >>= complete) u))
      (foreign : u.rest.Raises Fault.Foreign)
      (fails : fetchSource (placeOf protocol loader resolved) u = (.error raised, v)) :
      Chain s asMain parent raw [canonicalId protocol resolved] raised
  | raises {s u v : Session} {asMain : Bool} {parent : Option Nat} {raw : Value} {origin : Origin}
      {number : Nat} {thrown raised : Raised} {code : SessionAction Value}
      {complete : Value → SessionAction Value} (found : origin? parent raw s = some origin)
      (absent : s.cache.get? origin.key = none) (runs : RunsCode require number u origin code)
      (loads : dispatch require asMain parent raw s =
        Cache.settle hooks origin.key ((wrapFailure number code >>= complete) u))
      (fails : code u = (.error thrown, v)) (foreign : thrown.fault.Foreign)
      (named : (v.rest.record number).id = .text origin.key)
      (wraps : (wrapFailure number code u).1 = .error raised) :
      Chain s asMain parent raw [origin.key] raised
  | link {s u v t : Session} {asMain : Bool} {parent asking : Option Nat} {raw next : Value}
      {origin : Origin} {keys : List String} {raised : Raised} {number : Nat} {code : SessionAction Value}
      {complete : Value → SessionAction Value} (found : origin? parent raw s = some origin)
      (absent : s.cache.get? origin.key = none) (runs : RunsCode require number u origin code)
      (loads : dispatch require asMain parent raw s =
        Cache.settle hooks origin.key ((wrapFailure number code >>= complete) u))
      (asks : Steps (fun _ => True) u t) (chain : Chain t false asking next keys raised)
      (onward : Steps (fun _ => True) (require asking next t).2 v)
      (uncaught : code u = (.error raised, v)) :
      Chain s asMain parent raw (origin.key :: keys) raised

/-- A source that cannot be read is a failure that tells the key of the source. -/
theorem fetchSource_failed {destination : Destination} (foreign : s.rest.Raises Fault.Foreign)
    (fails : fetchSource destination s = (.error raised, t)) :
    raised.fault.failed? = some (.text destination.key) := by
  obtain ⟨u, ⟨_, quiet⟩, fetches⟩ := fetchSource_eq destination s
  have bounded := Loader.load_bounded (foreign.loaders destination.loader) destination.resolved
    u.rest.host (foreign.host.of_network quiet) (Flow.refl _)
  have ends : LoaderEnds (fun _ => False) (.text destination.key) (fetchSource destination s).1 := by
    rw [fetches]
    refine fromLoader_ends _ (Loader.load_moves _ _) ?_
    exact Outcome.Ends.meets (bounded.ends.mono (fun _ => id) (fun _ => .inl) fun _ both => .inl both.1)
  rw [fails] at ends
  cases ends with
  | failed fault _ =>
    rw [fault]
    rfl
  | passed _ impossible => exact impossible.elim

/-- What the code of a module raises is wrapped by a failure that tells the id of the module. -/
theorem wrapFailure_foreign {α : Type} {x : SessionAction α} {thrown : Raised} {number : Nat}
    (fails : x s = (.error thrown, t)) (foreign : thrown.fault.Foreign) {key : String}
    (named : (t.rest.record number).id = .text key) :
    ∃ u, wrapFailure number x s =
      (.error ⟨t.rest.heap.marks, .evaluationFailure (.text key) thrown.fault true⟩, u) := by
  have id : t.datumOf (t.rest.record number).id = .text key := by
    rw [named]
    rfl
  refine ⟨t.update fun world => { world with heap := world.heap.marked.link t.rest.heap.marks thrown }, ?_⟩
  have wrapped : wrapFailure number x s =
      raiseBecause (.evaluationFailure (t.datumOf (t.rest.record number).id) thrown.fault true) thrown t := by
    have handled : ¬ thrown.fault.isRequireError = true := Bool.eq_false_iff.mp foreign
    simp only [wrapFailure, Action.handle, fails, if_neg handled]
    rfl
  rw [wrapped, id, raiseBecause_apply]
  rfl

theorem wrapFailure_own {α : Type} {x : SessionAction α} (ran : x s = (.error raised, t))
    (own : raised.fault.isRequireError = true) (number : Nat) :
    wrapFailure number x s = (.error raised, t) := by
  simp only [wrapFailure, Action.handle, ran, own, if_true]
  rfl

theorem SmallSteps.failed {around : Session → Raised → Prop} (steps : SmallSteps around s t) {key : String}
    (known : s.cache.get? key = some (.failed raised)) : t.cache.get? key = some (.failed raised) := by
  induction steps with
  | refl => exact known
  | tail _ step ih => exact step.settled ih nofun

/-- A request fails, and leaves the error for some keys, the last of which it tells. -/
structure FailsAll (result : Outcome Raised Value × Session) (keys : List String) (raised : Raised) :
    Prop where
  fails : result.1 = .error raised
  cached : ∀ key ∈ keys, result.2.cache.get? key = some (.failed raised)
  told : ∃ key, keys.getLast? = some key ∧ raised.fault.failed? = some (.text key)

/-- A request whose load ends with an error fails with it. -/
theorem FailsAll.of_settle {result : Outcome Raised Value × Session} {key : String}
    (loads : result = Cache.settle hooks key (.error raised, t))
    (told : raised.fault.failed? = some (.text key)) : FailsAll result [key] raised := by
  subst loads
  refine ⟨rfl, ?_, key, rfl, told⟩
  simp only [List.mem_singleton, forall_eq]
  exact (Cache.get?_settle ..).trans (if_pos rfl)

theorem Chain.failsAll {asMain : Bool} {parent : Option Nat} {raw : Value} {keys : List String}
    (chain : Chain s asMain parent raw keys raised) :
    FailsAll (dispatch require asMain parent raw s) keys raised := by
  induction chain with
  | unread found absent loads foreign fails =>
    exact .of_settle (loads.trans (by rw [Action.bind_apply, fails])) (fetchSource_failed foreign fails)
  | raises found absent runs loads fails foreign named wraps =>
    obtain ⟨u, wrapped⟩ := wrapFailure_foreign fails foreign named
    rw [wrapped] at wraps
    cases wraps
    exact .of_settle (loads.trans (by rw [Action.bind_apply, wrapped])) rfl
  | @link s u v t asMain parent asking raw next origin keys raised number code complete _ _ _ loads _ _
      onward uncaught ih =>
    obtain ⟨_, cached, key, last, told⟩ := ih
    have wrapped := wrapFailure_own uncaught (Fault.isRequireError_of_failed told) number
    have loaded : dispatch require asMain parent raw s =
        Cache.settle hooks origin.key (.error raised, v) := by
      rw [loads, Action.bind_apply, wrapped]
    rw [loaded]
    refine ⟨rfl, fun key member => ?_, key, ?_, told⟩
    · rw [Cache.get?_settle]
      split
      · rfl
      · rename_i other
        refine onward.failed ?_
        rw [require_eq_dispatch]
        exact cached key ((List.mem_cons.mp member).resolve_left other)
    · rw [List.getLast?_cons, last]
      rfl

/-- An execution ends with an error and reports a key that has failed by it, as have all keys of a chain
whose last one it is. -/
structure ReportsAll (result : Outcome Raised Execution × Session) (keys : List String) (raised : Raised) :
    Prop where
  cached : ∀ key ∈ keys, result.2.cache.get? key = some (.failed raised)
  reports : ∃ execution key details, result.1 = .value execution ∧ execution.outcome = .error raised ∧
    keys.getLast? = some key ∧
    execution.report = raised.fault.kind ++ ": " ++ key ++ "\n" ++ details

theorem execute_reports {action : SessionAction Value} {keys : List String} (withMain : Bool)
    (fails : FailsAll (action s) keys raised) : ReportsAll (execute action withMain s) keys raised := by
  obtain ⟨failed, cached, key, last, told⟩ := fails
  obtain ⟨execution, ran, outcome⟩ : ∃ execution : Execution,
      execute action withMain s = (.value execution, (action s).2) ∧
        execution.outcome = .error raised := by
    cases ran : action s with
    | mk outcome t =>
      rw [ran] at failed
      obtain rfl : outcome = .error raised := failed
      simp only [execute, Action.bind_apply, Action.attempt, ran, Session.world, Action.gets]
      exact ⟨_, rfl, rfl⟩
  obtain ⟨details, reported⟩ := Fault.ofFault_of_failed told
  rw [ran]
  refine ⟨cached, execution, key, details, rfl, outcome, last, ?_⟩
  unfold Execution.report
  rw [outcome]
  exact reported

/-- Wherever a session gets whose surroundings raise no errors of the system, whose loaders resolve what
they are asked, and whose scripts give no module another id and make no failures of their own, a failure
that tells a key has failed that key, and it has arisen in the load of what the key stands for; so has one
that a request ends with. A chain of requests that nobody breaks leaves one failure for all of its modules,
which tells the last of them, and a main module or a script that ends with it reports that key. -/
theorem failures_name_their_origin :
    (∀ s : Session, s.Trusting → Genuine s.rest.history → ∀ key raised,
      s.cache.get? key = some (.failed raised) → s.Told raised) ∧
    (∀ s : Session, s.Trusting → ∀ asMain parent raw raised t,
      dispatch require asMain parent raw s = (.error raised, t) → Genuine t.rest.history →
      t.Told raised) ∧
    (∀ s asMain parent raw keys raised, Chain s asMain parent raw keys raised →
      FailsAll (dispatch require asMain parent raw s) keys raised) ∧
    (∀ s path keys raised, Chain s true none
        (.text (Path.absolute s.rest.host.files.workingDirectory path)) keys raised →
      ReportsAll (runMain path s) keys raised) ∧
    ∀ s t u asking next keys raised source, Chain t false asking next keys raised →
      Steps (fun _ => True) (require asking next t).2 u →
      evaluateSource require source s = (.error raised, u) →
      ReportsAll (runScript source s) keys raised := by
  refine ⟨fun s trusting genuine key raised known => ?_,
    fun s trusting asMain parent raw raised t ran genuine => ?_,
    fun s asMain parent raw keys raised chain => chain.failsAll, fun s path keys raised chain => ?_,
    fun s t u asking next keys raised source chain onward ran => ?_⟩
  · exact ((trusting.clean.errors key raised known).1 genuine).told
  · have orderly : Orderly tracing s _ (dispatch require asMain parent raw) :=
      dispatch_orderly nested_tracing (.inl rfl) asMain (tracing.asking_of_untracked id) raw
    exact (((orderly s trusting.clean (Flow.refl s)).ended ran).2 genuine).told
  · refine execute_reports true ?_
    rw [requireMain_eq_dispatch]
    exact chain.failsAll
  · obtain ⟨_, cached, told⟩ := chain.failsAll
    refine execute_reports false ⟨congrArg Prod.fst ran, fun key member => ?_, told⟩
    rw [ran]
    refine onward.failed ?_
    rw [require_eq_dispatch]
    exact cached key member

/-- A session with a script that asks for a missing file, and then makes a failure of another name out of the
error that it gets. -/
def forging : Session :=
  ⟨.empty, { World.empty .empty with
    registry := ⟨.ofList [("file", some 0)], none⟩
    mounted := #[⟨.memory (.ofList [("/m.py", "try:\n    require('./missing')\n" ++
      "except Exception as e:\n    raise type(e)('ghost', e)\n")]) "/" [".py"], 0, []⟩] }⟩

theorem forging_trusting : forging.Trusting := by
  have unprepared (number : Nat) {P : Fault → Prop} : (loaderOf forging.rest number).Raises P := by
    refine Loader.raises_of_unprepared fun answers same => ?_
    cases number <;> cases same
  have bare : (Session.empty Host.empty).Trusting := .empty (by rintro _ _ _ ⟨⟩)
  exact .set_up bare
    ⟨rfl, rfl, rfl, rfl, rfl, fun raises => { raises with loaders := fun number => unprepared number }⟩
    fun number => (unprepared number).resolvesBut

/-- The script has been asked for. -/
def forged : Session := forging.after [.require none (.text "/m.py")]

/-- Whether an entry has a failure that tells a key. -/
def tellsFailure (key : String) : Cache.Entry Nat Value Raised → Bool
  | .failed ⟨_, .loaderFailure (.text name) _ _⟩ => name == key
  | _ => false

theorem exists_failed_of_tellsFailure {entry : Cache.Entry Nat Value Raised} {key : String}
    (tells : tellsFailure key entry = true) :
    ∃ raised : Raised, entry = .failed raised ∧ raised.fault.kind = "LoaderFailure" ∧
      raised.fault.failed? = some (.text key) := by
  unfold tellsFailure at tells
  split at tells
  · obtain rfl := eq_of_beq tells
    exact ⟨_, rfl, rfl, rfl⟩
  · cases tells

/-- Whether something gives a module another id. -/
def renames : Happening → Bool
  | .rename .. => true
  | _ => false

/-- A failure that a script has made is left for its module, and tells a key that nothing is known of. -/
theorem forged_failure_names_nothing : forged.Trusting ∧ Unrenamed forged.rest.history ∧
    ∃ raised, forged.cache.get? "file:///m.py" = some (.failed raised) ∧
      raised.fault.kind = "LoaderFailure" ∧ raised.fault.failed? = some (.text "ghost") ∧
      forged.cache.get? "ghost" = none ∧ ¬ forged.Told raised := by
  obtain ⟨failed, absent, quiet⟩ : (forged.cache.get? "file:///m.py").any (tellsFailure "ghost") = true ∧
      forged.cache.get? "ghost" = none ∧ forged.rest.history.any renames = false := by decide +kernel
  have unrenamed : Unrenamed forged.rest.history := fun number id member =>
    List.any_eq_false.mp quiet _ member rfl
  obtain ⟨entry, known, tells⟩ := (Option.any_eq_true ..).mp failed
  obtain ⟨raised, rfl, kind, told⟩ := exists_failed_of_tellsFailure tells
  refine ⟨.after forging_trusting _, unrenamed, raised, known, kind, told, absent, fun right => ?_⟩
  obtain ⟨origin, same, cached, _⟩ := right _ told
  have key : origin.key = "ghost" := by simpa using same.symm
  rw [key, absent] at cached
  cases cached

end Session

end ModuleSystem
