import ModuleSystem.Proofs.Run.Operation
import ModuleSystem.Proofs.Walk.Script

/-! # Runs of scripts

Two ways to answer the requests of a script that agree on a set of sessions make the script do the same
on these sessions. Whatever the script does, it moves along every relation along which its requests are
answered; in particular it is a run inside whatever is being loaded. -/

namespace ModuleSystem

open ModuleSystem.Action (Moves Agree AgreeAt UpholdsAt Closed Flow Keeps)
open Session (Tolerant)

variable {P : Session → Prop} {R : Session → Session → Prop} {α : Type}

/-- The walk along a relation from a set of sessions: everything may be kept, and errors end actions
fairly. -/
abbrev Walk.along (P : Session → Prop) (R : Session → Session → Prop) : Walk where
  twin := id
  clean := P
  moved := R
  near _ _ := True
  fails s raised := ¬ Interrupting.interrupts raised ∨ Remembering.remembers s raised
  stops _ raised := Interrupting.interrupts raised
  admits _ := True

namespace Walk

theorem fair_of_ends {s : Session} {V : α → Prop} {outcome : Outcome Raised α}
    (ends : outcome.Ends V ((along P R).fails s) ((along P R).stops s)) : outcome.Fair s := by
  cases outcome with
  | value => trivial
  | error => exact ends
  | interruption => exact ends

theorem only_along (s : Session) (value : Value) : (along P R).Only s value :=
  Value.within_of_forall (fun _ => trivial) value

theorem agree_of_upheld [Flow R] {V : Session → α → Prop} {x y : SessionAction α}
    (upheld : ∀ first, (along P R).Upheld first V x y) : Agree P R x y := fun s member =>
  have upholds := upheld s s member (Flow.refl s)
  ⟨upholds.agree, upholds.moved, fair_of_ends upholds.ends⟩

theorem upheld_of_agree {V : Session → α → Prop} {x y : SessionAction α} (agree : Agree P R x y)
    (all : ∀ s a, V s a) (first : Session) : (along P R).Upheld first V x y := fun s member _ => by
  obtain ⟨same, moved, fair⟩ := agree s member
  refine ⟨same.symm, moved, ?_⟩
  generalize (x s).1 = outcome at fair
  cases outcome with
  | value a => exact all _ a
  | error => exact fair
  | interruption => exact fair

variable [Tolerant R]

/-- Small steps are all that a walk needs. -/
theorem resolving_along (closed : Closed P R) : (along P R).Resolving where
  refl := Flow.refl (R := R)
  trans := Flow.trans (R := R)
  keeps moved member := closed member moved
  twin := .inl rfl
  near _ := id
  fails moved := Or.imp_right (Tolerant.recalls moved _)
  stops _ := id
  ends {s raised} _ := by
    split
    · assumption
    · exact .inl ‹_›
  failed _ := trivial
  stopped _ := trivial
  within {s} _ := World.within_of_forall (fun _ => trivial) s.rest
  values _ _ := only_along _ _
  foreign _ := trivial
  admits _ := trivial
  change _ change := Tolerant.step _ change.step change.main_eq
  makes _ _ _ := trivial
  causes _ _ _ _ _ := trivial
  resolve raw parent := upheld_of_agree (Session.resolve_moves raw parent).agree (fun _ _ => trivial) _

end Walk

namespace Script

variable {first second : Requirer}

/-- A script remembers what its session does. -/
instance : Remembering Frame Raised := ⟨fun frame => Remembering.remembers frame.session⟩

/-- Where a script gets if its session moves along a relation. -/
abbrev FrameAlong (R : Session → Session → Prop) : Frame → Frame → Prop := InvImage R Frame.session

/-- Two actions of a script agree on the sessions of `P`. -/
abbrev FrameAgree (P : Session → Prop) (R : Session → Session → Prop) (x y : FrameAction α) : Prop :=
  Agree (fun frame => P frame.session) (FrameAlong R) x y

/-- Scripts on a scope of their own move a session as their action moves the session of the frame. -/
theorem inScope_agree (scope : Ordered Value) {x y : FrameAction α}
    (agree : FrameAgree P R x y) :
    Agree P R (inScope scope x) (inScope scope y) := by
  intro s member
  obtain ⟨same, moved, fair⟩ := agree ⟨scope, s⟩ member
  exact ⟨by simp only [inScope, same], moved, fair⟩

/-- Two ways to answer requests agree on a set of sessions that a relation does not leave. -/
structure Alike (P : Session → Prop) (R : Session → Session → Prop) (first second : Requirer) : Prop where
  closed : Closed P R
  agree (parent : Option Nat) (raw : Value) : Agree P R (first parent raw) (second parent raw)

theorem Alike.from (alike : Alike P R first second) (s : Session) :
    AlikeFrom (Walk.along P R) s first second := fun t _ parent raw _ _ =>
  Walk.upheld_of_agree (alike.agree parent raw) (fun _ _ => Walk.only_along _ _) t

theorem frameAgree_of_upheld [Flow R] {V : Session → α → Prop} {x y : FrameAction α}
    (upheld : ∀ frame, FrameUpheld (Walk.along P R) frame V x y) : FrameAgree P R x y := fun frame member =>
  have upholds := upheld frame frame ⟨member, fun _ _ _ => Walk.only_along _ _⟩ ⟨Flow.refl _, id⟩
  ⟨upholds.same.symm, upholds.moved.session, Walk.fair_of_ends upholds.ends⟩

variable [Tolerant R]

theorem setMember_moves (object : Value) (name : String) (value : Value) :
    Moves R (setMember object name value) := by
  have resolving : (Walk.along (fun _ => True) R).Resolving := Walk.resolving_along fun _ _ _ _ => trivial
  have agree : Agree (fun _ => True) R _ _ := Walk.agree_of_upheld fun first =>
    setMember_orderly object name (Walk.only_along first value)
  exact fun s => agree s trivial

section

variable (alike : Alike P R first second)

include alike

theorem evaluate_agree (e : Expr) : FrameAgree P R (evaluate first e) (evaluate second e) := by
  have := Walk.resolving_along alike.closed
  exact frameAgree_of_upheld fun frame => evaluate_upheld (alike.from frame.session) e

theorem runAll_agree (body : List Stmt) : FrameAgree P R (runAll first body) (runAll second body) := by
  have := Walk.resolving_along alike.closed
  exact frameAgree_of_upheld fun frame => runAll_upheld (alike.from frame.session) body

theorem runSource_agree (body : List Stmt) :
    FrameAgree P R (runSource first body) (runSource second body) := by
  have := Walk.resolving_along alike.closed
  exact frameAgree_of_upheld fun frame => runSource_upheld (alike.from frame.session) body

end

end Script

end ModuleSystem
