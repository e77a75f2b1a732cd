import ModuleSystem.Proofs.Step.Record

/-! # Strides

When the code of a module has come to its end, two steps follow on each other: the module is marked as
loaded, and its key is resolved to what it exports. Nobody gets to look at the session in between. So
sessions go on in strides: a stride is a step that completes no module, or these two steps at once. -/

namespace ModuleSystem.Session

open ModuleSystem.Action (Flow)

variable {around : Session → Raised → Prop} {s t : Session} {key : String} {number : Nat}

/-- A module is being run: its key is pending, and its record is attached. -/
structure Running (s : Session) (key : String) (number : Nat) : Prop where
  pending : s.cache.get? key = some (.pending (some number))
  attached : s.rest.modules.get? key = some number
  there : number < s.rest.records.size

/-- A module is complete: its record is attached under its key and is loaded, and its exports are the
value of the module. -/
structure Complete (world : World) (key : String) (number : Nat) (value : Value) : Prop where
  attached : world.modules.get? key = some number
  loaded : (world.record number).loaded = .bool true
  exports : (world.record number).exports = value

/-- A session in which a module has been marked as loaded. -/
def finished (s : Session) (number : Nat) : Session :=
  ⟨s.cache, s.rest.updateRecord number fun record => { record with loaded := .bool true }⟩

/-- A step that completes no module: it marks none as loaded, unless a script does so, and resolves no key.
A load starts with a record that has just been made. -/
structure Plain (around : Session → Raised → Prop) (s t : Session) : Prop where
  small : SmallStep around s t
  unmarked : ∀ number < s.rest.records.size,
    (t.rest.record number).loaded = (s.rest.record number).loaded ∨
      ∃ loaded, t.rest.history = .flag number loaded :: s.rest.history
  unresolved : ∀ key value, t.cache.get? key = some (.resolved value) →
    s.cache.get? key = some (.resolved value)
  started : ∀ key number, s.cache.get? key = none → t.cache.get? key = some (.pending (some number)) →
    ∃ exports, s.rest.history.head? = some (.create exports)

/-- A stride: a step that completes no module, or the steps that complete one. -/
inductive Stride (around : Session → Raised → Prop) : Session → Session → Prop
  | plain {s t : Session} (plain : Plain around s t) : Stride around s t
  | complete {s : Session} {origin : Origin} {number : Nat} (running : Running s origin.key number)
      (brings : Brings (s.finished number).rest origin (.value (s.rest.record number).exports))
      (only : (s.rest.record number).exports.Only (around (s.finished number))) :
      Stride around s (Cache.settle hooks origin.key
        (.value (s.rest.record number).exports, s.finished number)).2

theorem finished_record (s : Session) (number other : Nat) :
    (s.finished number).rest.record other =
      if other = number ∧ other < s.rest.records.size then
        { s.rest.record other with loaded := .bool true }
      else s.rest.record other := World.record_updateRecord ..

theorem finished_exports (s : Session) (number other : Nat) :
    ((s.finished number).rest.record other).exports = (s.rest.record other).exports := by
  rw [finished_record]
  split
  · rfl
  · rfl

/-- What is complete when its key is settled is complete afterwards. -/
theorem Running.complete (running : s.Running key number) :
    Complete (Cache.settle hooks key (.value (s.rest.record number).exports, s.finished number)).2.rest
      key number (s.rest.record number).exports where
  attached := by
    rw [settle_modules]
    exact running.attached
  loaded := by
    rw [settle_record, finished_record, if_pos ⟨rfl, running.there⟩]
  exports := by
    rw [settle_record, finished_exports]

namespace Stride

theorem smallSteps (stride : Stride around s t) : SmallSteps around s t := by
  cases stride with
  | plain plain => exact .single plain.small
  | @complete origin number running brings only =>
    have settles : SmallStep around (s.finished number) (Cache.settle hooks origin.key
        (.value (s.rest.record number).exports, s.finished number)).2 := by
      refine .settle running.pending brings only nofun fun value same => ?_
      cases same
      exact finished_exports s number number
    exact .tail (.single (.finish running.pending)) settles

/-- A stride makes one record at most. -/
theorem size_le_succ (stride : Stride around s t) : t.rest.records.size ≤ s.rest.records.size + 1 := by
  cases stride with
  | plain plain =>
    rcases plain.small.size_cases with same | ⟨more, _⟩
    · exact same.le.trans (Nat.le_succ _)
    · exact more.le
  | @complete origin number =>
    rw [settle_size]
    exact (Array.size_modify ..).le.trans (Nat.le_succ _)

/-- A key that is resolved has been so before, or its module has just been completed. -/
theorem resolved (stride : Stride around s t) {value : Value}
    (known : t.cache.get? key = some (.resolved value)) :
    s.cache.get? key = some (.resolved value) ∨
      ∃ number, s.Running key number ∧ Complete t.rest key number value := by
  cases stride with
  | plain plain => exact .inl (plain.unresolved key value known)
  | complete running =>
    rw [Cache.get?_settle] at known
    split at known
    · rename_i same
      subst same
      cases known
      exact .inr ⟨_, running, running.complete⟩
    · exact .inl known

end Stride

end ModuleSystem.Session
