import ModuleSystem.Proofs.Step.Operation
import ModuleSystem.Proofs.Walk.Script

/-! # Steps of loads

A load takes its steps in order: its source is fetched, its record is attached, and the source is
evaluated, or its builtin is made. What it raises is always an error of the system of modules: the errors
of loaders and of scripts are wrapped, which makes them the failure of the origin that is loaded, and
those that are of the system already go through. A load that ends with a value has just marked its record
as loaded, which completes the module once its key is settled. -/

namespace ModuleSystem

open Identifier (canonicalId)
open ModuleSystem.Action (Flow Ensures Upholds UpholdsAt Moves)
open Session (Unrenamed Begun Fresh RunsCode Complete Upheld Orderly)

/-- A load ends with an error of the system, which may have been around already or is the failure of the
origin that is loaded. -/
structure Watch.Fails (w : Watch) (origin : Origin) (s : Session) (raised : Raised) : Prop where
  own : raised.fault.isRequireError = true
  whence : w.around s raised ∨ w.Breaks s origin raised

namespace Session

/-- The record of a key has been made for it. -/
structure Made (s : Session) (key : String) (number : Nat) : Prop where
  there : number < s.rest.records.size
  id : (s.rest.record number).id = .text key

instance : Calm (InvImage Eq fun s : Session => s.rest.history) where
  refl _ := rfl
  trans := Eq.trans
  host _ _ _ := rfl
  heap _ _ _ := rfl
  calls _ _ _ _ := rfl

end Session

open Session (Running Made)

namespace Watch.Moved

variable {w : Watch} {s t : Session} {key : String} {number : Nat}

theorem running (moved : w.Moved s t) (running : s.Running key number) : t.Running key number :=
  ⟨moved.kept _ _ running.pending, moved.attached _ _ running.pending running.attached,
    running.there.trans_le moved.size_le⟩

/-- A record still has the id that it was made with, unless records have been given other ids. -/
theorem id_eq (moved : w.Moved s t) (made : s.Made key number)
    (unrenamed : Unrenamed t.rest.history) : (t.rest.record number).id = .text key :=
  (moved.small.id_eq made.there unrenamed).trans made.id

end Watch.Moved

/-- How a load ends that begins in a session: with the exports of its record, which it has just marked as
loaded, with an error, or by an interruption. -/
inductive Watch.Concludes (w : Watch) (E : Session → Raised → Prop) (key : String) (number : Nat)
    (s : Session) : Outcome Raised Value × Session → Prop
  | value {t : Session} (moved : w.Moved s t) (clean : w.Clean t) (running : t.Running key number) :
      Concludes w E key number s (.value (t.rest.record number).exports, t.finished number)
  | error {t : Session} {raised : Raised} (moved : w.Moved s t) (fails : E t raised) :
      Concludes w E key number s (.error raised, t)
  | interruption {t : Session} {raised : Raised} (moved : w.Moved s t) (around : w.around t raised) :
      Concludes w E key number s (.interruption raised, t)

/-- From a session on two loads do the same, and end as loads do. -/
structure Watch.ConcludesAt (w : Watch) (E : Session → Raised → Prop) (key : String) (number : Nat)
    (x y : SessionAction Value) (s : Session) : Prop where
  same : x s = y s
  ends : w.Concludes E key number s (x s)

namespace Watch

variable {w : Watch} {E F : Session → Raised → Prop} {key : String} {number : Nat} {s t : Session} {α : Type}

theorem Concludes.later {result : Outcome Raised Value × Session} (moved : w.Moved s t)
    (ends : w.Concludes E key number t result) : w.Concludes E key number s result := by
  cases ends with
  | value onward clean running => exact .value (Flow.trans moved onward) clean running
  | error onward fails => exact .error (Flow.trans moved onward) fails
  | interruption onward around => exact .interruption (Flow.trans moved onward) around

namespace ConcludesAt

variable {x y : SessionAction Value}

theorem finish (clean : w.Clean s) (running : s.Running key number) :
    w.ConcludesAt E key number (Session.finish number) (Session.finish number) s := by
  have ran : Session.finish number s = (.value (s.rest.record number).exports, s.finished number) :=
    congrArg (fun exports => (Outcome.value exports, s.finished number)) (s.finished_exports number number)
  refine ⟨rfl, ?_⟩
  rw [ran]
  exact .value (Flow.refl s) clean running

/-- Loads that go on as others do from where steps lead. -/
theorem onward {z v : SessionAction Value} (concludes : w.ConcludesAt E key number x y t)
    (moved : w.Moved s t) (first : z s = x t) (second : v s = y t) : w.ConcludesAt E key number z v s := by
  refine ⟨first.trans (concludes.same.trans second.symm), ?_⟩
  rw [first]
  exact concludes.ends.later moved

/-- A load goes on after what is done by steps. -/
theorem bind {V : Session → α → Prop} {first second : SessionAction α} {f g : α → SessionAction Value}
    (upholds : UpholdsAt id w.Moved E w.around V first second s)
    (next : ∀ a t, first s = (.value a, t) → w.Moved s t → V t a →
      w.ConcludesAt E key number (f a) (g a) t) :
    w.ConcludesAt E key number (first >>= f) (second >>= g) s := by
  cases ran : first s with
  | mk outcome t =>
    obtain ⟨moved, ends⟩ := upholds.ended ran
    have alsoRan : second s = (outcome, t) := upholds.agree.symm.trans ran
    cases outcome with
    | value a =>
      exact (next a t ran moved ends).onward moved (by rw [Action.bind_apply, ran])
        (by rw [Action.bind_apply, alsoRan])
    | error raised =>
      refine ⟨by rw [Action.bind_apply, ran, Action.bind_apply, alsoRan], ?_⟩
      rw [Action.bind_apply, ran]
      exact .error moved ends
    | interruption raised =>
      refine ⟨by rw [Action.bind_apply, ran, Action.bind_apply, alsoRan], ?_⟩
      rw [Action.bind_apply, ran]
      exact .interruption moved ends

/-- After an error a load goes on with what can only end by an error or an interruption. -/
theorem handle {recover : Raised → SessionAction Value} (concludes : w.ConcludesAt E key number x y s)
    (recovers : ∀ raised t, x s = (.error raised, t) → w.Moved s t → E t raised →
      UpholdsAt id w.Moved F w.around (fun _ _ => False) (recover raised) (recover raised) t) :
    w.ConcludesAt F key number (Action.handle x recover) (Action.handle y recover) s := by
  refine ⟨by simp only [Action.handle, concludes.same], ?_⟩
  have ends := concludes.ends
  cases ran : x s with
  | mk outcome t =>
    rw [ran] at ends
    cases ends with
    | value moved clean running =>
      simp only [Action.handle, ran]
      exact .value moved clean running
    | interruption moved around =>
      simp only [Action.handle, ran]
      exact .interruption moved around
    | @error _ raised moved fails =>
      simp only [Action.handle, ran]
      have recovers := recovers raised t ran moved fails
      cases recovered : recover raised t with
      | mk outcome u =>
        obtain ⟨onward, ended⟩ := recovers.ended recovered
        cases outcome with
        | value => exact ended.elim
        | error => exact .error (Flow.trans moved onward) ended
        | interruption => exact .interruption (Flow.trans moved onward) ended

end ConcludesAt

end Watch

namespace Session

variable {w : Watch} {first s t : Session} {α : Type} {V : Session → α → Prop}
  {E I : Session → Raised → Prop} {one other inner : Script.Requirer} {key : String} {number : Nat}
  {origin : Origin} {destination : Destination}

/-- Two changes that are one step. -/
theorem changes_concludes {f g : World → World} {x y : SessionAction Value}
    (moved : w.Moved s ⟨s.cache, g (f s.rest)⟩)
    (next : w.ConcludesAt E key number x y ⟨s.cache, g (f s.rest)⟩) :
    w.ConcludesAt E key number (change f >>= fun _ => change g >>= fun _ => x)
      (change f >>= fun _ => change g >>= fun _ => y) s := next.onward moved rfl rfl

/-- A change that is a step leads to where it says. -/
theorem change_upholds {f : World → World} (moved : w.Moved s ⟨s.cache, f s.rest⟩) :
    UpholdsAt id w.Moved E I (fun t _ => t = ⟨s.cache, f s.rest⟩) (change f) (change f) s :=
  ⟨rfl, moved, rfl⟩

variable [w.Lawful]

/-! ## Evaluating -/

omit [w.Lawful] in
theorem moduleScope_within {Q : Value.Reference → Prop} {world : World} (holds : world.Within Q)
    {number : Nat} (own : Q (.record number)) : (moduleScope world number).Within Q := by
  have record := holds.records number
  refine Ordered.within_ofList ?_
  simp only [List.forall_mem_cons, Value.within_ofText?, Value.within_record, record.id, record.exports, own,
    true_and]
  split
  · simpa using own
  · simp

theorem scriptText_orderly (source : Datum) :
    Orderly w first (fun _ _ => True) (scriptText source) := by
  unfold scriptText
  split
  · split
    · exact Walk.raise_orderly (.foreign rfl)
    · exact .idle
  · split
    · exact .idle
    · exact Walk.raise_orderly (.foreign rfl)
  · exact Walk.raise_orderly (.foreign rfl)

theorem readStatements_orderly (source : Datum) :
    Orderly w first (fun _ _ => True) (readStatements source) := by
  refine .bind (scriptText_orderly source) fun text _ _ _ => ?_
  split
  · exact .idle
  · exact Walk.raise_orderly (.foreign rfl)

theorem evaluateScript_concludes (clean : w.Clean s) (alike : Script.AlikeFrom w.walk s one other)
    (running : s.Running key number) (source : Datum) :
    w.ConcludesAt w.around key number (evaluateScript one source number)
      (evaluateScript other source number) s := by
  refine .bind (readStatements_orderly source s clean (Flow.refl s)) fun statements t _ read _ => ?_
  refine .bind (world_ensures t (read.clean clean) (Flow.refl t)) fun world u _ seen got => ?_
  obtain ⟨rfl, cleanU⟩ := got
  have reached := Flow.trans read seen
  refine .bind (change_upholds (.enter (reached.running running).pending)) fun _ v _ entered _ => ?_
  have begins := Flow.trans reached entered
  have own : w.near u (.record number) := fun _ => (reached.running running).there
  have within (after : Session) (moved : w.Moved v after) :
      (moduleScope u.rest number).Within (w.near after) :=
    (moduleScope_within cleanU.holds own).mono fun _ => (Flow.trans entered moved).near
  have scripts : Script.FrameUpheld w.walk ⟨moduleScope u.rest number, v⟩ (fun _ _ => True) _ _ :=
    Script.runSource_upheld (alike.later begins) statements
  refine .bind (Script.inScope_upheld within scripts v (entered.clean cleanU) (Flow.refl v))
    fun _ _ _ ran _ => ?_
  have ended := Flow.trans begins ran
  exact .finish (ended.clean clean) (ended.running running)

/-- The errors of documents are not of the system. -/
theorem readDocument_orderly (format : Option String) (source : Datum) :
    Orderly w first (fun _ _ => True) (ofExcept ((Document.read format none source).mapError .document)) := by
  refine Walk.ofExcept_orderly (fun _ _ _ _ _ => trivial) fun fault failed => ?_
  cases read : Document.read format none source with
  | ok datum =>
    rw [read] at failed
    cases failed
  | error problem =>
    rw [read] at failed
    cases failed
    exact Watch.Admits.foreign (Fault.isRequireError_document problem)

theorem evaluateDocument_concludes (clean : w.Clean s) (running : s.Running key number)
    (format : Option String) (source : Datum) (name : String) :
    w.ConcludesAt w.around key number (evaluateDocument format source name number)
      (evaluateDocument format source name number) s := by
  refine .bind (readDocument_orderly _ source s clean (Flow.refl s)) fun datum t _ read _ => ?_
  refine .bind (ofDatum_ensures datum t (read.clean clean) (Flow.refl t)) fun value u _ made only => ?_
  refine .bind (change_upholds (.change (.assign number only))) fun _ v _ assigned _ => ?_
  have reached := Flow.trans (Flow.trans read made) assigned
  exact .finish (reached.clean clean) (reached.running running)

theorem evaluateWith_concludes (clean : w.Clean s) (alike : Script.AlikeFrom w.walk s one other)
    (running : s.Running key number) (evaluator : Evaluator) (source : Datum) (name : String) :
    w.ConcludesAt w.around key number (evaluateWith one evaluator source name number)
      (evaluateWith other evaluator source name number) s := by
  cases evaluator with
  | script => exact evaluateScript_concludes clean alike running source
  | data format => exact evaluateDocument_concludes clean running format source name

/-! ## Failing -/

/-- What the code of a module raises is wrapped, which makes it the failure of its origin. -/
theorem wraps_upholds (origin : Origin) {thrown : Raised} (clean : w.Clean s) (answers : w.answers inner)
    (reached : w.Moved first s) (made : first.Made origin.key number) (moved : w.Moved s t)
    (around : w.around t thrown)
    (runs : ∃ code, RunsCode inner number s origin code ∧ (code s).1 = .error thrown) :
    Ensures (· = t) w.Moved t (w.Fails origin) w.around V
      (if thrown.fault.isRequireError then Action.fail thrown
      else do
        let session ← Action.get
        raiseBecause (.evaluationFailure (session.datumOf (session.rest.record number).id) thrown.fault true)
          thrown) := by
  rintro t rfl _
  split
  · exact ⟨rfl, Flow.refl t, ‹_›, .inl around⟩
  · obtain ⟨code, runs, fails⟩ := runs
    have raises : Ensures w.Clean w.Moved t (w.Fails origin) w.around V
        (raiseBecause (.evaluationFailure (t.datumOf (t.rest.record number).id) thrown.fault true) thrown) :=
      raiseBecause_ensures around fun u raised later wraps => ?_
    · exact (raises t (moved.clean clean) (Flow.refl t)).of_eq rfl rfl
    have arises : Arises w.visits w.answers u origin raised :=
      .raises clean.visited (Flow.trans moved later).leads answers runs fails
        (Bool.eq_false_iff.mpr ‹_›) wraps
    refine ⟨wraps ▸ rfl, .inr ⟨arises, fun unrenamed => ?_⟩⟩
    rw [wraps, (Flow.trans reached moved).id_eq made (unrenamed.before later.suffix)]
    rfl

theorem wrapFailure_upholds (origin : Origin) {x y : SessionAction α}
    (upholds : UpholdsAt id w.Moved w.around w.around V x y s)
    (clean : w.Clean s) (answers : w.answers inner) (reached : w.Moved first s)
    (made : first.Made origin.key number)
    (runs : ∀ thrown, (x s).1 = .error thrown → ∃ code, RunsCode inner number s origin code ∧
      (code s).1 = .error thrown) :
    UpholdsAt id w.Moved (w.Fails origin) w.around V (wrapFailure number x) (wrapFailure number y) s :=
  upholds.handle fun thrown t ran moved around => wraps_upholds origin clean answers reached made moved around
    (runs thrown (congrArg Prod.fst ran)) t rfl (Flow.refl t)

theorem wrapFailure_concludes (origin : Origin) {x y : SessionAction Value}
    (concludes : w.ConcludesAt w.around key number x y s)
    (clean : w.Clean s) (answers : w.answers inner) (reached : w.Moved first s)
    (made : first.Made origin.key number)
    (runs : ∀ thrown, (x s).1 = .error thrown → ∃ code, RunsCode inner number s origin code ∧
      (code s).1 = .error thrown) :
    w.ConcludesAt (w.Fails origin) key number (wrapFailure number x) (wrapFailure number y) s :=
  concludes.handle fun thrown t ran moved around => wraps_upholds origin clean answers reached made moved
    around (runs thrown (congrArg Prod.fst ran)) t rfl (Flow.refl t)

/-! ## Loading -/

omit [w.Lawful] in
theorem history_fetchSource (destination : Destination) (s : Session) :
    (fetchSource destination s).2.rest.history = s.rest.history := by
  have quiet : Moves (InvImage Eq fun s : Session => s.rest.history) (fetchSource destination) :=
    .bind world_moves fun _ => .bind (note_moves _ _) fun _ => .bind (.modify fun _ => rfl) fun _ =>
      .bind (recordCall_moves _ _) fun _ => fromLoader_moves _ (Loader.load_moves _ _)
  exact (quiet s).moved.symm

theorem fetchSource_ensures (raises : (loaderOf first.rest destination.loader).Raises w.outside) :
    Ensures w.Clean w.Moved first (w.Refuses w.outside (.text destination.key)) w.around
      (fun _ _ => True) (fetchSource destination) := by
  have broad : Fault.Broad w.outside := Watch.Lawful.broad
  refine .bind world_ensures fun world t moved got => .bind (note_ensures _ _) fun _ _ _ _ => ?_
  obtain ⟨rfl, _⟩ := got
  refine .bind (change_ensures fun _ _ _ => .mounted fun _ => rfl) fun _ _ _ _ => ?_
  refine .bind (recordCall_ensures _ _) fun _ _ _ _ => fromLoader_ensures _ (fun host => ?_) fun _ => .outside
  rw [← moved.later.loaderOf] at raises
  exact Loader.load_bounded raises _

/-- A source that cannot be read is the failure of its origin. -/
theorem fetchSource_upholds {protocol : Option String} {loader : Nat} {resolved : String}
    (clean : w.Clean s)
    (begun : s.rest.history.head? = some (.work .fetch (canonicalId protocol resolved) number)) :
    UpholdsAt id w.Moved (w.Fails (.loaded protocol loader resolved)) w.around (fun _ _ => True)
      (fetchSource (placeOf protocol loader resolved))
      (fetchSource (placeOf protocol loader resolved)) s := by
  refine (fetchSource_ensures (clean.raises.loaders loader) s clean (Flow.refl s)).errors ?_
  rintro raised t ran moved ⟨own, around | ⟨cause, _, foreign, wraps⟩⟩
  · exact ⟨own, .inl around⟩
  · exact ⟨own, .inr ⟨.unread clean.visited moved.leads begun (congrArg Prod.fst ran) foreign wraps,
      fun _ => by rw [wraps]; rfl⟩⟩

/-- A load takes its steps in order, wherever it begins. -/
theorem load_concludes {protocol : Option String} {loader : Nat} {resolved : String} (clean : w.Clean s)
    (answers : w.answers one) (alike : Script.AlikeFrom w.walk s one other)
    (offers : s.rest.Offers (.loaded protocol loader resolved))
    (begun : Begun s (canonicalId protocol resolved) number)
    (made : s.Made (canonicalId protocol resolved) number) :
    w.ConcludesAt (w.Fails (.loaded protocol loader resolved)) (canonicalId protocol resolved) number
      (load one (placeOf protocol loader resolved) number)
      (load other (placeOf protocol loader resolved) number) s := by
  refine .bind (change_upholds (.fetch offers begun)) fun _ t _ told atT => ?_
  have head : t.rest.history.head? = some (.work .fetch (canonicalId protocol resolved) number) := by
    rw [atT]
    rfl
  refine .bind (fetchSource_upholds (told.clean clean) head) fun source u ran moved _ => ?_
  have reached := Flow.trans told moved
  have fetched : Fetched u (canonicalId protocol resolved) number := by
    refine ⟨reached.kept _ _ begun.pending, ?_⟩
    have history := history_fetchSource (placeOf protocol loader resolved) t
    rw [ran] at history
    rw [history, head]
  obtain ⟨late, onward, loads⟩ := fetchSource_value (congrArg Prod.fst ran)
  rw [← moved.later.loaderOf] at loads
  have evaluates : w.Moved u ⟨u.cache, (u.rest.attach (canonicalId protocol resolved) number).tell
      (.work .evaluate (canonicalId protocol resolved) number)⟩ :=
    .evaluate (reached.later.offers offers) (moved.later.host.symm.trans onward) loads fetched fun _ =>
      made.there.trans_le reached.size_le
  refine changes_concludes evaluates ?_
  generalize same : (⟨u.cache, (u.rest.attach (canonicalId protocol resolved) number).tell
    (.work .evaluate (canonicalId protocol resolved) number)⟩ : Session) = v at evaluates ⊢
  have ran := Flow.trans reached evaluates
  have running : Running v (canonicalId protocol resolved) number := by
    refine ⟨ran.kept _ _ begun.pending, ?_, made.there.trans_le ran.size_le⟩
    rw [← same]
    exact World.attached_attach ..
  have evaluated := evaluateWith_concludes (ran.clean clean) (alike.later ran) running
  refine (wrapFailure_concludes (.loaded protocol loader resolved) (evaluated _ _ _) (ran.clean clean) answers
    ran made fun thrown failed => ⟨_, ?_, failed⟩).onward (Flow.refl v) rfl rfl
  refine .evaluate (evaluates.later.host.symm.trans (moved.later.host.symm.trans onward)) ?_ ?_ rfl
  · rw [evaluates.later.loaderOf]
    exact loads
  · rw [← same]
    rfl

/-! ## Making builtins -/

theorem exportAll_orderly (number : Nat) : ∀ {first : Session} (exports : List (String × Datum)),
    Orderly w first (fun _ _ => True) (exportAll number exports)
  | _, [] => .idle
  | _, _ :: rest =>
    .bind (ofDatum_ensures _) fun _ _ _ only => .bind (exportsOf_ensures _) fun _ _ moved _ =>
      .bind (Script.setMember_orderly _ _ (moved.within only)) fun _ _ _ _ => exportAll_orderly number rest

theorem exportRequired_upheld (number : Nat) : ∀ {first : Session}, w.Asking first (some number) →
    Script.AlikeFrom w.walk first one other → ∀ requires : List (String × Datum),
      Upheld w first (fun _ _ => True)
        (exportRequired one number requires) (exportRequired other number requires)
  | _, _, _, [] => .idle
  | _, asking, alike, _ :: rest =>
    .bind (ofDatum_ensures _) fun _ _ made only =>
      .bind ((alike.later made) _ (Flow.refl _) _ _ (made.asking asking) only) fun _ _ asked holds =>
        .bind (exportsOf_ensures _) fun _ _ moved _ =>
          .bind (Script.setMember_orderly _ _ (moved.within holds)) fun _ _ set _ =>
            have onward := Flow.trans made (Flow.trans asked (Flow.trans moved set))
            exportRequired_upheld number (onward.asking asking) (alike.later onward) rest

theorem makeBuiltin_upheld (alike : Script.AlikeFrom w.walk first one other) {builtin : Builtin}
    (raises : builtin.Raises w.outside) {number : Nat} (asking : w.Asking first (some number)) :
    Upheld w first w.Only (makeBuiltin one builtin number) (makeBuiltin other builtin number) := by
  refine .bind .get fun _ _ early _ => .bind (change_ensures fun _ _ _ => .builtinCalls)
    fun _ _ called _ => ?_
  refine .bind (exportAll_orderly number _) fun _ _ exported _ => ?_
  have moved := Flow.trans early (Flow.trans called exported)
  refine .bind (exportRequired_upheld number (moved.asking asking) (alike.later moved) _) fun _ _ _ _ => ?_
  split
  · exact Walk.raise_orderly (.outside (raises _ ‹_›))
  · exact ofDatum_ensures _

theorem loadBuiltin_concludes {name : String} {builtin : Builtin} (clean : w.Clean s)
    (answers : w.answers one) (alike : Script.AlikeFrom w.walk s one other)
    (known : s.rest.builtins.get? name = some builtin) (begun : Begun s name number)
    (made : s.Made name number) :
    w.ConcludesAt (w.Fails (.builtin name)) name number (loadBuiltin one name builtin number)
      (loadBuiltin other name builtin number) s := by
  have defined : s.rest.builtins.contains name = true := by simp [Ordered.contains, known]
  have raises := clean.raises.builtins name builtin known
  have makes : w.Moved s ⟨s.cache, (s.rest.attach name number).tell (.work .make name number)⟩ :=
    .make defined begun fun _ => made.there
  refine changes_concludes makes ?_
  generalize same : (⟨s.cache, (s.rest.attach name number).tell (.work .make name number)⟩ : Session) = t
    at makes ⊢
  have running : Running t name number := by
    refine ⟨makes.kept _ _ begun.pending, ?_, made.there.trans_le makes.size_le⟩
    rw [← same]
    exact World.attached_attach ..
  have asking : w.Asking t (some number) := by
    rintro _ ⟨⟩
    exact fun _ => running.there
  have builds :=
    makeBuiltin_upheld (alike.later makes) raises asking t (makes.clean clean) (Flow.refl t)
  refine .bind (wrapFailure_upholds (.builtin name) builds (makes.clean clean) answers makes made
    fun thrown failed => ⟨_, .make (by rw [makes.later.builtins]; exact known) (by rw [← same]; rfl),
      failed⟩) fun value u _ moved only => ?_
  have running := moved.running running
  have cleanU := (Flow.trans makes moved).clean clean
  split
  · refine .bind (change_upholds (.change (.assign number only))) fun _ v _ assigned _ => ?_
    exact .finish (assigned.clean cleanU) (assigned.running running)
  · exact .finish cleanU running

end Session

end ModuleSystem
