import ModuleSystem.Proofs.Walk.Operation

/-! # Scripts along walks

A script goes along a walk, whatever it does with the answers to its requests, if these are given along it.
Its variables keep only what may be kept, since what it reads and what it catches does not. Two ways to
answer requests that do the same wherever the script gets to make it do the same. -/

namespace ModuleSystem.Script

open ModuleSystem.Action (Flow Keeps Upholds)
open FrameAction (onSession changeScope)

variable {k : Walk} {α : Type} {one other : Requirer}

/-- The twin of a frame has the twin of its session. -/
def Frame.twin (k : Walk) (frame : Frame) : Frame := { frame with session := k.twin frame.session }

/-- A script in the beginning: its session is clean, and its variables keep only what may be kept. -/
structure Frame.Clean (k : Walk) (frame : Frame) : Prop where
  session : k.clean frame.session
  scope : frame.scope.Within (k.near frame.session)

/-- A script later on, after its session has gone on. -/
structure FrameMoved (k : Walk) (before after : Frame) : Prop where
  session : k.moved before.session after.session
  scope : before.scope.Within (k.near before.session) → after.scope.Within (k.near after.session)

instance [k.Lawful] : Keeps (Frame.Clean k) (FrameMoved k) where
  refl frame := ⟨Flow.refl (R := k.moved) frame.session, id⟩
  trans early late := ⟨Flow.trans (R := k.moved) early.session late.session, late.scope ∘ early.scope⟩
  keeps moved clean := ⟨Keeps.keeps moved.session clean.session, moved.scope clean.scope⟩

/-- From a script and its twin on, two actions do the same along a walk, with values of one set. -/
abbrev FrameUpheld (k : Walk) (frame : Frame) (V : Session → α → Prop) (x y : FrameAction α) : Prop :=
  Upholds (Frame.twin k) (Frame.Clean k) (FrameMoved k) frame (fun frame => k.fails frame.session)
    (fun frame => k.stops frame.session) (fun frame => V frame.session) x y

/-- Requests are answered alike wherever a session gets to. -/
def AlikeFrom (k : Walk) (first : Session) (one other : Requirer) : Prop :=
  ∀ t, k.moved first t → ∀ parent raw, k.Asking t parent → k.Only t raw →
    k.Upheld t k.Only (one parent raw) (other parent raw)

variable [k.Resolving]

theorem AlikeFrom.later {first next : Session} (alike : AlikeFrom k first one other)
    (moved : k.moved first next) : AlikeFrom k next one other :=
  fun t onward => alike t (Flow.trans moved onward)

theorem onSession_upheld {frame : Frame} {V : Session → α → Prop} {x y : SessionAction α}
    (upheld : k.Upheld frame.session V x y) :
    FrameUpheld k frame V (onSession x) (onSession y) := by
  intro now clean reached
  obtain ⟨same, moved, ends⟩ := upheld now.session clean.session reached.session
  exact ⟨by simp only [onSession, Action.within, Frame.twin, same],
    ⟨moved, fun scope => scope.mono fun _ => Walk.Lawful.near moved⟩, ends⟩

theorem changeScope_upheld {frame : Frame} {f : Ordered Value → Ordered Value}
    (keeps : ∀ now, FrameMoved k frame now → now.scope.Within (k.near now.session) →
      (f now.scope).Within (k.near now.session)) :
    FrameUpheld k frame (fun _ _ => True) (changeScope f) (changeScope f) :=
  .modify_twin (fun _ => rfl) (fun now _ moved => ⟨Flow.refl (R := k.moved) now.session, keeps now moved⟩)
    fun _ _ _ => trivial

variable {frame : Frame}

theorem give {value : Value} (only : k.Only frame.session value) :
    FrameUpheld k frame k.Only (Action.pure value) (Action.pure value) :=
  .done fun _ _ moved => moved.session.within only

theorem readVariable_upheld (name : String) :
    FrameUpheld k frame k.Only (readVariable name) (readVariable name) := by
  refine .get_bind (fun _ => rfl) fun t clean _ => ?_
  split
  · exact give (clean.scope name _ ‹_›)
  · exact onSession_upheld (commonName_orderly name)

theorem call_upheld (alike : AlikeFrom k frame.session one other) {function : Value}
    (only : k.Only frame.session function) {arguments : List Value} (all : k.All frame.session arguments) :
    k.Upheld frame.session k.Only (call one function arguments) (call other function arguments) := by
  cases function with
  | require parent =>
    simp only [call]
    split
    · exact alike _ (Flow.refl _) parent _ ((Value.within_require _).mp only) (all _ (by simp))
    · exact wrongCount_orderly _ _ _
  | function function => exact callFunction_orderly function all
  | kind kind => exact callKind_orderly kind all
  | _ => exact mistake_orderly _

mutual

theorem evaluate_upheld : ∀ {frame : Frame}, AlikeFrom k frame.session one other → ∀ e : Expr,
    FrameUpheld k frame k.Only (evaluate one e) (evaluate other e)
  | _, _, .literal _ => give (by simp)
  | _, _, .name name => readVariable_upheld name
  | _, alike, .list items =>
    .bind (evaluateAll_upheld alike items) fun _ _ _ all => onSession_upheld (newList_orderly all)
  | _, alike, .tuple items =>
    .bind (evaluateAll_upheld alike items) fun _ _ _ all => onSession_upheld (newTuple_orderly all)
  | _, alike, .dict entries =>
    .bind (evaluateEntries_upheld alike entries) fun _ _ _ all => onSession_upheld (newDict_orderly all)
  | _, alike, .member object _ =>
    .bind (evaluate_upheld alike object) fun _ _ _ only => onSession_upheld (member_orderly only _)
  | _, alike, .item object key =>
    .bind (evaluate_upheld alike object) fun _ _ moved only =>
      .bind (evaluate_upheld (alike.later moved.session) key) fun _ _ later _ =>
        onSession_upheld (item_orderly (later.session.within only) _)
  | _, alike, .call function arguments =>
    .bind (evaluate_upheld alike function) fun _ _ moved only =>
      .bind (evaluateAll_upheld (alike.later moved.session) arguments) fun _ _ later all =>
        onSession_upheld (call_upheld (alike.later (Flow.trans moved later).session)
          (later.session.within only) all)
  | _, alike, .negative e =>
    .bind (evaluate_upheld alike e) fun _ _ _ _ => onSession_upheld (negative_orderly _)
  | _, alike, .sum left right =>
    .bind (evaluate_upheld alike left) fun _ _ moved first =>
      .bind (evaluate_upheld (alike.later moved.session) right) fun _ _ later second =>
        onSession_upheld (sum_orderly (later.session.within first) second)
  | _, alike, .quotient left right =>
    .bind (evaluate_upheld alike left) fun _ _ moved _ =>
      .bind (evaluate_upheld (alike.later moved.session) right) fun _ _ _ _ =>
        onSession_upheld (quotient_orderly _ _)
  | _, alike, .identical left right =>
    .bind (evaluate_upheld alike left) fun _ _ moved _ =>
      .bind (evaluate_upheld (alike.later moved.session) right) fun _ _ _ _ =>
        .bind (onSession_upheld (compared_orderly (V := fun _ _ => True) fun _ _ _ _ _ => trivial))
          fun _ _ _ _ => give (by simp)
  | _, alike, .contains item collection =>
    .bind (evaluate_upheld alike item) fun _ _ moved _ =>
      .bind (evaluate_upheld (alike.later moved.session) collection) fun _ _ _ _ =>
        .bind (onSession_upheld (contains_orderly _ _)) fun _ _ _ _ => give (by simp)

theorem evaluateAll_upheld : ∀ {frame : Frame}, AlikeFrom k frame.session one other →
    ∀ items : List Expr, FrameUpheld k frame k.All (evaluateAll one items) (evaluateAll other items)
  | _, _, [] => .done fun _ _ _ _ member => by cases member
  | _, alike, e :: rest =>
    .bind (evaluate_upheld alike e) fun _ _ moved first =>
      .bind (evaluateAll_upheld (alike.later moved.session) rest) fun _ _ later others =>
        .pure fun _ _ onward => List.forall_mem_cons.mpr
          ⟨(Flow.trans later onward).session.within first, onward.session.all others⟩

theorem evaluateEntries_upheld : ∀ {frame : Frame}, AlikeFrom k frame.session one other →
    ∀ entries : List (Expr × Expr), FrameUpheld k frame k.Entries (evaluateEntries one entries)
      (evaluateEntries other entries)
  | _, _, [] => .done fun _ _ _ _ member => by cases member
  | _, alike, (key, e) :: rest =>
    .bind (evaluate_upheld alike key) fun _ _ moved first =>
      .bind (evaluate_upheld (alike.later moved.session) e) fun _ _ later second =>
        .bind (evaluateEntries_upheld (alike.later (Flow.trans moved later).session) rest)
          fun _ _ last others => .pure fun _ _ onward => List.forall_mem_cons.mpr
            ⟨⟨(Flow.trans later (Flow.trans last onward)).session.within first,
              (Flow.trans last onward).session.within second⟩, onward.session.entries others⟩

end

theorem assignVariable_upheld (name : String) {value : Value} (only : k.Only frame.session value) :
    FrameUpheld k frame (fun _ _ => True) (assignVariable name value) (assignVariable name value) :=
  changeScope_upheld fun _ moved old => old.set name (moved.session.within only)

theorem store_upheld (alike : AlikeFrom k frame.session one other) (target : Target) {value : Value}
    (only : k.Only frame.session value) :
    FrameUpheld k frame (fun _ _ => True) (store one target value) (store other target value) := by
  cases target with
  | name name => exact assignVariable_upheld name only
  | member object name =>
    exact .bind (evaluate_upheld alike object) fun _ _ moved _ =>
      onSession_upheld (setMember_orderly _ _ (moved.session.within only))

theorem handles_upheld (alike : AlikeFrom k frame.session one other) (kind : Option Expr)
    (fault : Fault) :
    FrameUpheld k frame (fun _ _ => True) (handles one kind fault) (handles other kind fault) := by
  cases kind with
  | none => exact .idle
  | some kind =>
    exact .bind (evaluate_upheld alike kind) fun _ _ _ _ =>
      onSession_upheld (matchesKind_orderly _ _)

/-- A script has ended as it should. -/
abbrev Ended (k : Walk) (s : Session) (outcome : Outcome Raised Unit) : Prop :=
  outcome.Ends (fun _ => True) (k.fails s) (k.stops s)

theorem Ended.later {s t : Session} {outcome : Outcome Raised Unit} (ended : Ended k s outcome)
    (moved : k.moved s t) : Ended k t outcome :=
  ended.mono (fun _ => id) (fun _ => Walk.Lawful.fails moved) fun _ => Walk.Lawful.stops moved

/-- What may be handled may be kept. -/
theorem Ended.around {s : Session} {outcome : Outcome Raised Unit} (ended : Ended k s outcome)
    {raised : Raised} (caught : canHandle outcome = some raised) : k.Around s raised := by
  unfold canHandle at caught
  split at caught
  · cases caught
  · cases caught
    exact Walk.Lawful.failed ended
  · split at caught <;> cases caught
    exact Walk.Lawful.stopped ended

theorem ofOutcome_upheld {outcome : Outcome Raised Unit} (ended : Ended k frame.session outcome) :
    FrameUpheld k frame (fun _ _ => True) (Action.ofOutcome outcome) (Action.ofOutcome outcome) :=
  .ofOutcome fun _ _ moved => ended.later moved.session

theorem withName_upheld (name : Option String) {raised : Raised} (around : k.Around frame.session raised)
    {x y : FrameAction Unit} (bodies : FrameUpheld k frame (fun _ _ => True) x y) :
    FrameUpheld k frame (fun _ _ => True) (withName name raised x) (withName name raised y) := by
  cases name with
  | none => exact bodies
  | some name =>
    refine .bind (assignVariable_upheld name ((Value.within_error raised).mpr around)) fun _ _ moved _ => ?_
    refine .bind (bodies.later moved).attempt fun outcome _ _ ended => ?_
    refine .bind (changeScope_upheld fun _ _ old => old.erase name) fun _ _ later _ => ?_
    exact ofOutcome_upheld (Ended.later ended later.session)

mutual

theorem run_upheld : ∀ {frame : Frame}, AlikeFrom k frame.session one other → ∀ statement : Stmt,
    FrameUpheld k frame (fun _ _ => True) (run one statement) (run other statement)
  | _, _, .pass => .idle
  | _, alike, .evaluate e => .bind (evaluate_upheld alike e) fun _ _ _ _ => .idle
  | _, alike, .assign target e =>
    .bind (evaluate_upheld alike e) fun _ _ moved only =>
      store_upheld (alike.later moved.session) target only
  | _, alike, .raise e =>
    .bind (evaluate_upheld alike e) fun _ _ _ only =>
      onSession_upheld (V := fun _ _ => True) (raiseValue_orderly only)
  | _, alike, .attempt body handlers => by
    refine .bind (runAll_upheld alike body).attempt fun outcome t moved ended => ?_
    split
    · exact ofOutcome_upheld ended
    · exact runHandlers_upheld (alike.later moved.session) handlers ended (Ended.around ended ‹_›)

theorem runAll_upheld : ∀ {frame : Frame}, AlikeFrom k frame.session one other → ∀ body : List Stmt,
    FrameUpheld k frame (fun _ _ => True) (runAll one body) (runAll other body)
  | _, _, [] => .idle
  | _, alike, statement :: rest =>
    .bind (run_upheld alike statement) fun _ _ moved _ => runAll_upheld (alike.later moved.session) rest

theorem runHandlers_upheld : ∀ {frame : Frame}, AlikeFrom k frame.session one other →
    ∀ (handlers : List Handler) {outcome : Outcome Raised Unit} {raised : Raised},
      Ended k frame.session outcome → k.Around frame.session raised → FrameUpheld k frame (fun _ _ => True)
        (runHandlers one outcome raised handlers) (runHandlers other outcome raised handlers)
  | _, _, [], _, _, ended, _ => ofOutcome_upheld ended
  | _, alike, .mk kind name body :: rest, _, _, ended, around => by
    refine .bind (handles_upheld alike kind _) fun handled t moved _ => ?_
    have later := alike.later moved.session
    cases handled with
    | true => exact withName_upheld name (moved.session.around around) (runAll_upheld later body)
    | false =>
      exact runHandlers_upheld later rest (ended.later moved.session) (moved.session.around around)

end

theorem runSource_upheld (alike : AlikeFrom k frame.session one other) (body : List Stmt) :
    FrameUpheld k frame (fun _ _ => True) (runSource one body) (runSource other body) := by
  have runs {now : Frame} (moved : FrameMoved k frame now) :
      FrameUpheld k now (fun _ _ => True) (runAll one body) (runAll other body) :=
    runAll_upheld (alike.later moved.session) body
  unfold runSource
  cases documentation? body with
  | some text =>
    exact .bind (assignVariable_upheld _ (Value.within_scalar _)) fun _ _ moved _ => runs moved
  | none => exact .bind .idle fun _ _ moved _ => runs moved

omit [k.Resolving] in
/-- A script on variables of its own does to a session what it does to the session of its frame. -/
theorem inScope_upheld {first : Session} {V : Session → α → Prop} {scope : Ordered Value}
    {x y : FrameAction α} (only : ∀ s, k.moved first s → scope.Within (k.near s))
    (upheld : FrameUpheld k ⟨scope, first⟩ V x y) :
    k.Upheld first V (inScope scope x) (inScope scope y) := by
  intro s clean reached
  have begins : FrameMoved k ⟨scope, first⟩ ⟨scope, s⟩ := ⟨reached, fun _ => only s reached⟩
  obtain ⟨same, moved, ends⟩ := upheld ⟨scope, s⟩ ⟨clean, only s reached⟩ begins
  refine ⟨?_, moved.session, ends⟩
  exact congrArg (fun ended => (ended.1, ended.2.session)) same

end ModuleSystem.Script
