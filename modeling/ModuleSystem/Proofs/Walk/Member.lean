import ModuleSystem.Proofs.Walk.Basic

/-! # Attributes along walks

To read an attribute gives what the object keeps, and to assign one is a change of the world. The cause of a
failure is an error that is known already, or is made when it is asked for. -/

namespace ModuleSystem

open Value (Reference)

namespace Fault

theorem foreign_script (problem : ScriptProblem) : (Fault.script problem).Foreign := by
  cases problem <;> rfl

theorem foreign_unsupported (operation : String) : (Fault.unsupported operation).Foreign := rfl

end Fault

namespace Script

/-! ## What attributes keep -/

section

variable {Q : Reference → Prop} {world : World} {name : String} {value : Value}

theorem recordMember?_within (holds : world.Within Q) {number : Nat} (own : Q (.record number))
    (found : recordMember? world number name = some value) : value.Within Q := by
  have record := holds.records number
  unfold recordMember? at found
  dsimp only at found
  split at found
  · rename_i assigned
    cases found
    exact record.assigned name _ assigned
  · split at found <;> cases found
    · exact record.id
    · exact Value.within_ofText? _
    · exact Value.within_ofText? _
    · exact record.exports
    · exact record.loaded
    · exact Value.within_optional record.parent
    · exact Value.within_children _
    · split
      · simpa using own
      · exact Value.within_scalar _

theorem requireMember?_within (holds : world.Within Q) {parent : Option Nat}
    (asking : ∀ number, parent = some number → Q (.record number))
    (found : requireMember? world parent name = some value) : value.Within Q := by
  unfold requireMember? at found
  split at found <;> cases found
  · simp
  · simp
  · exact Value.within_optional holds.main
  · exact Value.within_optional asking
  · simp

theorem contextMember?_within (holds : world.Within Q)
    (found : contextMember? world name = some value) : value.Within Q := by
  unfold contextMember? at found
  split at found <;> cases found
  · simp
  · exact Value.within_optional holds.main
  · simp

theorem cacheMember?_within (found : cacheMember? name = some value) : value.Within Q := by
  unfold cacheMember? at found
  split at found <;> cases found <;> simp

theorem stateMember?_within {state : Cache.EntryState} (found : stateMember? state name = some value) :
    value.Within Q := by
  unfold stateMember? at found
  split at found <;> cases found <;> simp

/-- Whatever is read of an object is kept by the world or by the object. -/
theorem member?_within (holds : world.Within Q) {object : Value} (own : object.Within Q)
    (found : member? world object name = some value) : value.Within Q := by
  unfold member? at found
  split at found
  · exact holds.heap.objects _ name value found
  · exact recordMember?_within holds ((Value.within_record _).mp own) found
  · exact requireMember?_within holds ((Value.within_require _).mp own) found
  · exact cacheMember?_within found
  · exact contextMember?_within holds found
  · exact stateMember?_within found
  · split at found <;> cases found
    simp
  · cases found

end

/-! ## Reading and assigning -/

section

variable {k : Walk} [k.Lawful] {first : Session} {α : Type} {V : Session → α → Prop}

theorem mistake_orderly (problem : ScriptProblem) : k.Orderly first V (mistake problem) :=
  Walk.raise_orderly (Walk.Lawful.foreign (Fault.foreign_script problem))

theorem unsupported_orderly (operation : String) : k.Orderly first V (Session.unsupported operation) :=
  Walk.raise_orderly (Walk.Lawful.foreign (Fault.foreign_unsupported operation))

theorem missing_orderly (object : Value) (name : String) : k.Orderly first V (missing object name) := by
  unfold missing
  split
  · split
    · exact unsupported_orderly _
    · exact mistake_orderly _
  · split
    · exact unsupported_orderly _
    · exact mistake_orderly _

/-- The cause of a failure is the error that is linked to it, or a new one that is linked to it now. -/
theorem causeOf_orderly {raised : Raised} {cause : Fault} (around : k.Around first raised)
    (caused : raised.fault.cause? = some cause) : k.Orderly first k.Only (causeOf raised cause) := by
  refine Walk.world_bind (fun _ _ => rfl) fun t clean moved => ?_
  split
  · rename_i known found
    obtain ⟨before, after, links, _⟩ := List.lookup_eq_some_iff.mp found
    have kept : k.Around t known :=
      (Walk.Lawful.within clean).heap.causes (raised.serial, known) (by rw [links]; simp)
    exact Walk.give ((Value.within_error _).mpr kept)
  · rename_i unlinked
    have fresh (serial : Nat) : k.Around t ⟨serial, cause⟩ :=
      Walk.Lawful.causes serial clean (moved.around around) caused unlinked
    refine .bind (Walk.mark_orderly fun u _ onward serial => onward.around (fresh serial))
      fun made u _ near => ?_
    refine .bind (Walk.change_orderly (fun _ _ => rfl) fun _ _ later => .link _ (later.around near))
      fun _ _ later _ => ?_
    exact Walk.give ((Value.within_error _).mpr (later.around near))

theorem errorMember_orderly {raised : Raised} (around : k.Around first raised) (name : String) :
    k.Orderly first k.Only (errorMember raised name) := by
  unfold errorMember
  split
  · exact Walk.ofDatum_orderly _
  · split
    · exact causeOf_orderly around ‹_›
    · exact missing_orderly _ _

theorem member_orderly {object : Value} (only : k.Only first object) (name : String) :
    k.Orderly first k.Only (member object name) := by
  refine Walk.world_bind (fun _ _ => rfl) fun t clean moved => ?_
  split
  · exact Walk.give (member?_within (Walk.Lawful.within clean) (moved.within only) ‹_›)
  · exact errorMember_orderly (moved.around ((Value.within_error _).mp only)) name
  · exact missing_orderly _ _

theorem setRecordMember_orderly (number : Nat) (name : String) {value : Value} (only : k.Only first value) :
    k.Orderly first (fun _ _ => True) (setRecordMember number name value) := by
  unfold setRecordMember
  split
  · exact Walk.change_orderly (fun _ _ => rfl) fun _ _ moved => .rename number (moved.within only)
  · exact Walk.change_orderly (fun _ _ => rfl) fun _ _ moved => .assign number (moved.within only)
  · split
    · exact Walk.change_orderly (fun _ _ => rfl) fun _ _ moved => .flag number (moved.within only)
    · exact unsupported_orderly _
  · exact mistake_orderly _
  · split
    · exact Walk.change_orderly (fun _ _ => rfl) fun _ _ moved =>
        .alter number (moved.within only) (by decide)
    · exact unsupported_orderly _
  · split
    · exact unsupported_orderly _
    · rename_i others
      refine Walk.change_orderly (fun _ _ => rfl) fun _ _ moved => .alter number (moved.within only) ?_
      rintro rfl
      simp at others

theorem setMember_orderly (object : Value) (name : String) {value : Value} (only : k.Only first value) :
    k.Orderly first (fun _ _ => True) (setMember object name value) := by
  unfold setMember
  split
  · exact Walk.change_orderly (fun _ _ => rfl) fun _ _ moved => .setAttribute _ name (moved.within only)
  · exact setRecordMember_orderly _ name only
  · exact unsupported_orderly _
  · exact unsupported_orderly _
  · exact unsupported_orderly _
  · exact unsupported_orderly _
  · exact unsupported_orderly _
  · exact unsupported_orderly _
  · split
    · exact unsupported_orderly _
    · exact mistake_orderly _

end

end Script

end ModuleSystem
