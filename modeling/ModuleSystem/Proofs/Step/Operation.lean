import ModuleSystem.Proofs.Step.Host
import ModuleSystem.Proofs.Step.Move
import ModuleSystem.Proofs.Walk.Basic

/-! # Steps of single operations

A watch is a walk along its steps: the values that a session gives and the errors that it raises are those
that may be around, if the values that it is given are. So whatever scripts do under watch is done by steps,
as soon as what loaders are asked is. -/

namespace ModuleSystem

open ModuleSystem.Action (Flow Keeps Ensures Upholds UpholdsAt)
open Watch (Lawful)

namespace Watch

variable {w : Watch} {s t : Session}

/-- The walk along the steps under a watch. -/
abbrev walk (w : Watch) : Walk := ⟨id, w.Clean, w.Moved, w.near, w.around, w.around, w.Admits⟩

/-- A value keeps only what may be kept. -/
abbrev Only (w : Watch) (s : Session) (value : Value) : Prop := value.Within (w.near s)

/-- A module that asks for others may be kept. -/
abbrev Asking (w : Watch) (s : Session) (parent : Option Nat) : Prop :=
  ∀ number, parent = some number → w.near s (.record number)

theorem asking_none (w : Watch) {s : Session} : w.Asking s none := by rintro _ ⟨⟩

theorem asking_of_untracked (w : Watch) (untracked : ¬ w.tracks) {s : Session} {parent : Option Nat} :
    w.Asking s parent := fun _ _ tracks => absurd tracks untracked

/-- A loader fails for an id: its error is one of the system, which may be around, or it is wrapped. -/
structure Refuses (w : Watch) (P : Fault → Prop) (id : Datum) (s : Session) (raised : Raised) : Prop where
  own : raised.fault.isRequireError = true
  whence : w.around s raised ∨
    ∃ cause : Fault, P cause ∧ cause.Foreign ∧ raised.fault = .loaderFailure id cause true

variable [w.Lawful]

theorem Moved.asking (moved : w.Moved s t) {parent : Option Nat} (asking : w.Asking s parent) :
    w.Asking t parent := fun number same => moved.near (asking number same)

instance : w.walk.Lawful where
  refl := Flow.refl (R := w.Moved)
  trans := Flow.trans (R := w.Moved)
  keeps := Moved.clean
  twin := .inl rfl
  near moved := Moved.near (w := w) moved
  fails moved := Moved.around (w := w) moved
  stops moved := Moved.around (w := w) moved
  ends around := by
    split
    · exact around
    · exact around
  failed := id
  stopped := id
  within := Clean.holds
  values clean := clean.values _ _
  foreign := .foreign
  admits := Lawful.admits
  change _ := .change
  makes _ := Lawful.makes
  causes serial _ := Lawful.causes serial

end Watch

namespace Session

variable {w : Watch} {first : Session} {α : Type} {V : Session → α → Prop} {E I : Session → Raised → Prop}

/-- From a session on two actions do the same by steps, with values of one set and with errors that may be
around. -/
abbrev Upheld (w : Watch) (first : Session) (V : Session → α → Prop) (x y : SessionAction α) : Prop :=
  w.walk.Upheld first V x y

/-- Whatever an action does is done by steps, with values of one set and with errors that may be
around. -/
abbrev Orderly (w : Watch) (first : Session) (V : Session → α → Prop) (x : SessionAction α) : Prop :=
  w.walk.Orderly first V x

theorem change_ensures {f : World → World}
    (moves : ∀ s, w.Clean s → w.Moved first s → w.Moved s ⟨s.cache, f s.rest⟩) :
    Ensures w.Clean w.Moved first E I (fun _ _ => True) (change f) :=
  .modify moves fun _ _ _ => trivial

theorem note_ensures (source text : String) :
    Ensures w.Clean w.Moved first E I (fun _ _ => True) (note source text) :=
  change_ensures fun s _ _ => .host (.write s.rest.host ..) fun _ => id

theorem recordCall_ensures (number : Nat) (call : LoaderCall) :
    Ensures w.Clean w.Moved first E I (fun _ _ => True) (recordCall number call) := by
  refine change_ensures fun s _ _ => .mounted fun mounted => ?_
  split
  · rfl
  · rfl

/-- What an action on the host raises is raised only once it is asked for. -/
theorem onHost_ensures {P : Fault → Prop} {action : HostAction α}
    (bounded : ∀ host, HostAction.Bounded w.outside P host action) :
    Ensures w.Clean w.Moved first E I (fun _ => Outcome.Ends (fun _ => True) P
      fun fault => P fault ∧ fault.isInterruption = true) (onHost action) := by
  intro s clean reached
  obtain ⟨_, moved, ends⟩ := bounded s.rest.host s.rest.host clean.raises.host (Flow.refl _)
  exact ⟨rfl, .host moved.later moved.raises, ends⟩

/-- An error that is made has only got a mark. -/
theorem mark_ensures {fault : Fault} {V : Session → Raised → Prop}
    (holds : ∀ t raised, w.Moved first t → raised.fault = fault → V t raised) :
    Ensures w.Clean w.Moved first E I V (mark fault) := fun s _ reached =>
  have marked : w.Moved s (s.update fun world => { world with heap := world.heap.marked }) :=
    .change .mark
  .of_ran (t := s.update fun world => { world with heap := world.heap.marked }) rfl rfl marked
    (holds _ ⟨s.rest.heap.marks, fault⟩ (Flow.trans reached marked) rfl)

/-- An error ends an action as it should wherever the error leads. -/
theorem raiseAgain_ensures {raised : Raised} (ends : ∀ t, w.Moved first t →
    if raised.fault.isInterruption then I t raised else E t raised) :
    Ensures w.Clean w.Moved first E I V (raiseAgain raised) := by
  unfold raiseAgain
  split
  · rename_i interrupts
    refine fun t _ moved => ⟨rfl, Flow.refl t, ?_⟩
    change I t raised
    simpa [interrupts] using ends t moved
  · rename_i ordinary
    refine fun t _ moved => ⟨rfl, Flow.refl t, ?_⟩
    change E t raised
    simpa [ordinary] using ends t moved

variable [w.Lawful]

theorem raise_ensures {fault : Fault} (ends : ∀ t raised, w.Moved first t → raised.fault = fault →
    if fault.isInterruption then I t raised else E t raised) :
    Ensures w.Clean w.Moved first E I V (raise fault) :=
  .bind (mark_ensures (V := fun _ raised => raised.fault = fault) fun _ _ _ same => same)
      fun raised t moved same =>
    raiseAgain_ensures fun u later => by
      rw [same]
      exact ends u raised (Flow.trans moved later) same

/-- An error that is raised because of another one has got a mark and is linked to it. -/
theorem raiseBecause_ensures {fault : Fault} {cause : Raised} (around : w.around first cause)
    (ends : ∀ t raised, w.Moved first t → raised.fault = fault →
      if fault.isInterruption then I t raised else E t raised) :
    Ensures w.Clean w.Moved first E I V (raiseBecause fault cause) :=
  .bind (mark_ensures (V := fun _ raised => raised.fault = fault) fun _ _ _ same => same)
      fun raised t moved same =>
    .bind (change_ensures fun _ _ later => .change (.link _ ((Flow.trans moved later).around around)))
      fun _ u linked _ => raiseAgain_ensures fun v later => by
        rw [same]
        exact ends v raised (Flow.trans moved (Flow.trans linked later)) same

theorem world_ensures : Ensures w.Clean w.Moved first E I (fun t world => world = t.rest ∧ w.Clean t)
    world := .gets fun _ clean _ => ⟨rfl, clean⟩

theorem ofDatum_ensures (datum : Datum) :
    Ensures w.Clean w.Moved first E I w.Only (ofDatum datum) := fun s clean _ =>
  have moved : w.Moved s ⟨s.cache, { s.rest with heap := (Value.ofDatum s.rest.heap datum).2 }⟩ :=
    .change (.data datum)
  ⟨rfl, moved, moved.within (Value.ofDatum_within clean.holds.heap datum).1⟩

theorem exportsOf_ensures (number : Nat) : Ensures w.Clean w.Moved first E I w.Only (exportsOf number) :=
  .gets fun _ clean _ => (clean.holds.records number).exports

/-- What a loader raises is an error of the system or is wrapped by one. -/
theorem fromLoader_ensures (id : Datum) {P : Fault → Prop} {action : HostAction α}
    (bounded : ∀ host, HostAction.Bounded w.outside P host action)
    (admits : ∀ fault, P fault → w.Admits fault) :
    Ensures w.Clean w.Moved first (w.Refuses P id) w.around (fun _ _ => True)
      (fromLoader id action) := by
  refine .bind (onHost_ensures bounded) fun outcome t _ ends => ?_
  cases outcome with
  | value a => exact .idle
  | error fault =>
    have around (u : Session) (raised : Raised) (same : raised.fault = fault) : w.around u raised :=
      Lawful.admits (same ▸ admits _ ends)
    dsimp only
    unfold raiseLoaderError
    split
    · refine raise_ensures fun u raised _ same => ?_
      split
      · exact around u raised same
      · exact ⟨same ▸ ‹_›, .inl (around u raised same)⟩
    · refine .bind (mark_ensures (V := w.around) fun u raised _ same => around u raised same)
        fun cause u _ near => ?_
      exact raiseBecause_ensures near fun v raised _ same =>
        ⟨same ▸ rfl, .inr ⟨fault, ends, Bool.eq_false_iff.mpr ‹_›, same⟩⟩
  | interruption fault =>
    refine raise_ensures fun u raised _ same => ?_
    rw [if_pos ends.2]
    exact Lawful.admits (same ▸ admits _ ends.1)

/-- What a loader raises when it resolves an id. -/
theorem fromLoader_orderly (id : Datum) {action : HostAction α}
    (bounded : ∀ host, HostAction.Bounded w.outside w.unresolved host action) :
    Orderly w first (fun _ _ => True) (fromLoader id action) := by
  refine (fromLoader_ensures id bounded fun _ => .unresolved).mono (fun _ _ holds => holds) ?_
    fun _ _ around => around
  rintro t raised ⟨_, around | ⟨cause, unresolved, foreign, same⟩⟩
  · exact around
  · exact Lawful.admits (same ▸ .resolving unresolved foreign)

omit [w.Lawful] in
theorem find_admits (registry : Registry Nat) (protocol : Option String) (id : String) (fault : Fault)
    (failed : registry.find protocol id = .error fault) : w.Admits fault := by
  unfold Registry.find at failed
  split at failed
  · split at failed
    · cases failed
    · cases failed
      exact .noBareLoader _
  · split at failed
    · cases failed
    · cases failed
      exact .unsupportedProtocol _

theorem resolve_orderly (raw : Value) (parent : Option Nat) :
    Orderly w first (fun _ _ => True) (resolve raw parent) := by
  refine .bind .get fun session t _ got => .bind (note_ensures _ _) fun _ _ _ _ => ?_
  obtain ⟨rfl, clean⟩ := got
  refine .bind (Walk.ofExcept_orderly (fun _ _ _ _ _ => trivial) (find_admits _ _ _)) fun number _ _ _ => ?_
  exact .bind (recordCall_ensures _ _) fun _ _ _ _ =>
    .bind (fromLoader_orderly _ fun _ => Loader.resolve_bounded (clean.resolves number) _ _)
      fun _ _ _ _ => .idle

instance : w.walk.Resolving where
  resolve := resolve_orderly

end Session

end ModuleSystem
