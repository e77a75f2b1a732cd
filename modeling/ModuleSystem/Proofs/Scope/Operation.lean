import ModuleSystem.Proofs.Walk.Script

/-! # Operations without the variables of scripts

A session and the one with other variables of scripts in their place go along a walk side by side, and nothing
else is asked of it. So whatever scripts do to a session is detached from the variables that it keeps, as soon
as resolving identifiers is. -/

namespace ModuleSystem

open ModuleSystem.Action (Commutes Flow)
open Session (Detached)

variable {scope : Option (Ordered Value)} {α : Type}

/-- The walk of a session beside the one with other variables of scripts. -/
abbrev Walk.apart (scope : Option (Ordered Value)) : Walk where
  twin := Session.withScope scope
  clean _ := True
  moved _ _ := True
  near _ _ := True
  fails _ _ := True
  stops _ _ := True
  admits _ := True

namespace Walk

theorem only_apart (s : Session) (value : Value) : (apart scope).Only s value :=
  Value.within_of_forall (fun _ => trivial) value

theorem ends_apart {s : Session} {outcome : Outcome Raised α} {V : Session → α → Prop} (all : ∀ s a, V s a) :
    outcome.Ends (V s) ((apart scope).fails s) ((apart scope).stops s) := by
  cases outcome with
  | value a => exact all s a
  | error | interruption => trivial

theorem detached_of_orderly {V : Session → α → Prop} {x : SessionAction α}
    (orderly : ∀ first, (apart scope).Orderly first V x) : Detached scope x :=
  fun s => (orderly s s trivial trivial).same

theorem orderly_of_detached {V : Session → α → Prop} {x : SessionAction α} (detached : Detached scope x)
    (all : ∀ s a, V s a) (first : Session) : (apart scope).Orderly first V x :=
  fun s _ _ => ⟨detached s, trivial, ends_apart all⟩

instance : (apart scope).Lawful where
  refl _ := trivial
  trans _ _ := trivial
  keeps _ _ := trivial
  twin := .inr ⟨scope, rfl⟩
  near _ := id
  fails _ := id
  stops _ := id
  ends _ := by split <;> trivial
  failed _ := trivial
  stopped _ := trivial
  within {s} _ := World.within_of_forall (fun _ => trivial) s.rest
  values _ _ := only_apart _ _
  foreign _ := trivial
  admits _ := trivial
  change _ _ := trivial
  makes _ _ _ := trivial
  causes _ _ _ _ _ := trivial

end Walk

namespace Session

theorem mark_detached (fault : Fault) : Detached scope (mark fault) :=
  Walk.detached_of_orderly fun _ => Walk.mark_orderly fun _ _ _ _ => trivial

theorem raise_detached (fault : Fault) : Detached (α := α) scope (raise fault) :=
  Walk.detached_of_orderly (V := fun _ _ => True) fun _ => Walk.raise_orderly trivial

theorem raiseBecause_detached (fault : Fault) (cause : Raised) :
    Detached (α := α) scope (raiseBecause fault cause) :=
  .bind (mark_detached fault) fun _ => .bind (change_detached fun _ => rfl) fun _ =>
    Walk.detached_of_orderly (V := fun _ _ => True) fun _ => Walk.raiseAgain_orderly trivial

theorem ofExcept_detached (result : Except Fault α) : Detached scope (ofExcept result) :=
  Walk.detached_of_orderly (V := fun _ _ => True) fun _ =>
    Walk.ofExcept_orderly (fun _ _ _ _ _ => trivial) fun _ _ => trivial

theorem ofDatum_detached (datum : Datum) : Detached scope (ofDatum datum) :=
  Walk.detached_of_orderly fun _ => Walk.ofDatum_orderly datum

theorem note_detached (source text : String) : Detached scope (note source text) :=
  change_detached fun _ => rfl

theorem onHost_detached (action : HostAction α) : Detached scope (onHost action) := fun _ => rfl

theorem exportsOf_detached (number : Nat) : Detached scope (exportsOf number) := .gets fun _ => rfl

theorem newRecord_detached (id : String) (filename : Option String) (parent : Option Nat) :
    Detached scope (newRecord id filename parent) :=
  world_bind_detached (fun _ => rfl) fun _ => .bind (change_detached fun _ => rfl) fun _ => .pure _

theorem recordCall_detached (number : Nat) (call : LoaderCall) :
    Detached scope (recordCall number call) := change_detached fun _ => rfl

theorem fromLoader_detached (id : Datum) (action : HostAction α) :
    Detached scope (fromLoader id action) := by
  refine .bind (onHost_detached action) fun outcome => ?_
  split
  · exact .pure _
  · unfold raiseLoaderError
    split
    · exact raise_detached _
    · exact .bind (mark_detached _) fun _ => raiseBecause_detached _ _
  · exact raise_detached _

theorem resolve_detached (raw : Value) (parent : Option Nat) : Detached scope (resolve raw parent) := by
  refine .get_bind (fun session => ?_) fun session => ?_
  · simp only [plainOf_withScope, reprOf_withScope, datumOf_withScope]
    rfl
  · exact .bind (note_detached _ _) fun _ => .bind (ofExcept_detached _) fun _ =>
      .bind (recordCall_detached _ _) fun _ => .bind (fromLoader_detached _ _) fun _ => .pure _

end Session

instance : (Walk.apart scope).Resolving where
  resolve raw parent := Walk.orderly_of_detached (Session.resolve_detached raw parent) (fun _ _ => trivial) _

namespace Script

theorem setMember_detached (object : Value) (name : String) (value : Value) :
    Detached scope (setMember object name value) :=
  Walk.detached_of_orderly fun first => setMember_orderly object name (Walk.only_apart first value)

/-! ## Scripts -/

/-- A frame whose session keeps other variables of scripts. -/
def Frame.withScope (scope : Option (Ordered Value)) (frame : Frame) : Frame :=
  { frame with session := frame.session.withScope scope }

/-- Requests are answered without the variables of scripts. -/
def Requirer.Detached (scope : Option (Ordered Value)) (require : Requirer) : Prop :=
  ∀ parent raw, Session.Detached scope (require parent raw)

variable {require : Requirer}

theorem Requirer.Detached.alikeFrom (detached : require.Detached scope) (first : Session) :
    AlikeFrom (Walk.apart scope) first require require := fun t _ parent raw _ _ =>
  Walk.orderly_of_detached (detached parent raw) (fun _ _ => Walk.only_apart _ _) t

/-- A script does not need the variables that the session keeps, and leaves them alone. -/
theorem runAll_detached (detached : require.Detached scope) (body : List Stmt) :
    Commutes (Frame.withScope scope) (runAll require body) := fun frame =>
  (runAll_upheld (detached.alikeFrom frame.session) body frame ⟨trivial, fun _ _ _ => Walk.only_apart _ _⟩
    (Flow.refl frame)).same

theorem runSource_detached (detached : require.Detached scope) (body : List Stmt) :
    Commutes (Frame.withScope scope) (runSource require body) := fun frame =>
  (runSource_upheld (detached.alikeFrom frame.session) body frame ⟨trivial, fun _ _ _ => Walk.only_apart _ _⟩
    (Flow.refl frame)).same

theorem inScope_detached (bindings : Ordered Value) {x : FrameAction α}
    (detached : Commutes (Frame.withScope scope) x) : Session.Detached scope (inScope bindings x) := fun s =>
  congrArg (fun ended => (ended.1, ended.2.session)) (detached ⟨bindings, s⟩)

end Script

end ModuleSystem
