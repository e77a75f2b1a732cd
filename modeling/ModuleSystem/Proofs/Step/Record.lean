import ModuleSystem.Proofs.Step.Basic

/-! # Steps and records

Records are made and never taken away. A step changes at most one part of a record: its children, what a
script assigns to it, or the mark that its module is loaded. The table of modules changes only when the
record of a pending key is attached. -/

namespace ModuleSystem

open ModuleSystem.Action (Flow)

namespace World

variable (world : World) (key : String) (number other : Nat)

/-- Attaching a record changes no record but for its children. -/
theorem record_attach : (world.attach key number).record other =
    { world.record other with children := ((world.attach key number).record other).children } := by
  unfold attach
  dsimp only
  split
  · rw [record_updateRecord]
    split
    · rfl
    · rfl
  · rfl

theorem size_attach : (world.attach key number).records.size = world.records.size := by
  unfold attach
  dsimp only
  split
  · exact Array.size_modify ..
  · rfl

theorem modules_attach : (world.attach key number).modules = world.modules.set key number := by
  unfold attach
  dsimp only
  split <;> rfl

theorem attached_attach : (world.attach key number).modules.get? key = some number := by
  rw [modules_attach]
  exact Ordered.get?_set_self ..

end World

namespace Session

/-- Settling a key changes nothing of records and modules. -/
theorem settle_record (key : String) (outcome : Outcome Raised Value) (s : Session) (number : Nat) :
    (Cache.settle hooks key (outcome, s)).2.rest.record number = s.rest.record number := by
  obtain ⟨_, notes, _⟩ := notes_settle key outcome s
  exact notes.record number

theorem settle_modules (key : String) (outcome : Outcome Raised Value) (s : Session) :
    (Cache.settle hooks key (outcome, s)).2.rest.modules = s.rest.modules := by
  obtain ⟨_, notes, _⟩ := notes_settle key outcome s
  exact notes.modules

theorem settle_size (key : String) (outcome : Outcome Raised Value) (s : Session) :
    (Cache.settle hooks key (outcome, s)).2.rest.records.size = s.rest.records.size := by
  obtain ⟨_, notes, _⟩ := notes_settle key outcome s
  exact congrArg Array.size notes.records

/-- What a step does to a record: it leaves it as it is but for its children, a script assigns a part of
it, or the module of a pending key is marked as loaded. -/
inductive Touched (s t : Session) (number : Nat) : Prop
  | kept (same : t.rest.record number =
      { s.rest.record number with children := (t.rest.record number).children })
  | assigned (exports : Value) (told : t.rest.history = .assign number exports :: s.rest.history)
      (same : t.rest.record number = { s.rest.record number with exports })
  | renamed (id : Value) (told : t.rest.history = .rename number id :: s.rest.history)
      (same : t.rest.record number = { s.rest.record number with id })
  | flagged (loaded : Value) (told : t.rest.history = .flag number loaded :: s.rest.history)
      (same : t.rest.record number = { s.rest.record number with loaded })
  | altered (name : String) (value : Value)
      (told : t.rest.history = .alter number name value :: s.rest.history)
      (same : t.rest.record number = (s.rest.record number).assign name value)
  | finished (key : String) (pending : s.cache.get? key = some (.pending (some number)))
      (same : t.rest.record number = { s.rest.record number with loaded := .bool true })

variable {around : Session → Raised → Prop} {s t : Session}

theorem Touched.of_eq {number : Nat} (same : t.rest.record number = s.rest.record number) :
    Touched s t number := .kept (same.trans (by rw [same]))

/-- A change of one record. -/
theorem Touched.of_updateRecord {number other : Nat} {f : ModuleRecord → ModuleRecord}
    (there : number < s.rest.records.size)
    (changes : t.rest.records = (s.rest.updateRecord other f).records)
    (self : t.rest.record other = f (s.rest.record other) → Touched s t other) : Touched s t number := by
  have changed : t.rest.record number = (s.rest.updateRecord other f).record number := by
    unfold World.record
    rw [changes]
  rw [World.record_updateRecord] at changed
  by_cases here : number = other
  · subst here
    exact self (changed.trans (if_pos ⟨rfl, there⟩))
  · exact .of_eq (changed.trans (if_neg fun both => here both.1))

namespace SmallStep

/-- A step makes one record at most, and tells so. -/
theorem size_cases (step : SmallStep around s t) :
    t.rest.records.size = s.rest.records.size ∨
    t.rest.records.size = s.rest.records.size + 1 ∧
      ∃ exports, t.rest.history = .create exports :: s.rest.history := by
  cases step with
  | create => exact .inr ⟨by simp [World.addRecord], _, rfl⟩
  | change change => exact .inl change.size_eq
  | finish => exact .inl (Array.size_modify ..)
  | answer | start => exact .inl (congrArg Array.size (notes_noteEvent ..).records)
  | settle => exact .inl (settle_size ..)
  | evaluate | make => exact .inl (World.size_attach ..)
  | _ => exact .inl rfl

theorem size_le (step : SmallStep around s t) : s.rest.records.size ≤ t.rest.records.size := by
  rcases step.size_cases with same | ⟨more, _⟩
  · exact same.ge
  · omega

/-- What a step does to a record that there is before it. -/
theorem touched (step : SmallStep around s t) {number : Nat} (there : number < s.rest.records.size) :
    Touched s t number := by
  cases step with
  | create =>
    exact .of_eq ((World.record_addRecord s.rest _ _ _ number).trans (if_neg there.ne))
  | change change =>
    cases change with
    | @assign _ exports =>
      exact .of_updateRecord (f := fun record => { record with exports }) there rfl (.assigned exports rfl)
    | @rename _ id =>
      exact .of_updateRecord (f := fun record => { record with id }) there rfl (.renamed id rfl)
    | @flag _ loaded =>
      exact .of_updateRecord (f := fun record => { record with loaded }) there rfl (.flagged loaded rfl)
    | @alter _ name value =>
      exact .of_updateRecord (f := fun record => record.assign name value) there rfl
        (.altered name value rfl)
    | _ => exact .kept rfl
  | finish pending =>
    exact .of_updateRecord (f := fun record => { record with loaded := .bool true }) there rfl
      (.finished _ pending)
  | answer | start => exact .of_eq ((notes_noteEvent ..).record number)
  | settle => exact .of_eq (settle_record ..)
  | evaluate | make => exact .kept (World.record_attach ..)
  | _ => exact .kept rfl

/-- The table of modules stays, or a record is attached to its pending key. -/
theorem modules_cases (step : SmallStep around s t) :
    t.rest.modules = s.rest.modules ∨
    ∃ key number, s.cache.get? key = some (.pending (some number)) ∧ t.cache = s.cache ∧
      t.rest.modules = s.rest.modules.set key number := by
  cases step with
  | answer | start => exact .inl (notes_noteEvent ..).modules
  | settle => exact .inl (settle_modules ..)
  | change change => exact .inl change.modules_eq
  | evaluate _ _ _ fetched => exact .inr ⟨_, _, fetched.pending, rfl, World.modules_attach ..⟩
  | make _ begun => exact .inr ⟨_, _, begun.pending, rfl, World.modules_attach ..⟩
  | _ => exact .inl rfl

/-- A record that is attached to its pending key stays attached. -/
theorem attached (step : SmallStep around s t) {key : String} {number : Nat}
    (pending : s.cache.get? key = some (.pending (some number)))
    (attached : s.rest.modules.get? key = some number) : t.rest.modules.get? key = some number := by
  rcases step.modules_cases with same | ⟨other, late, alsoPending, _, same⟩
  · rw [same]
    exact attached
  · rw [same, Ordered.get?_set]
    split
    · rename_i here
      subst here
      rw [pending] at alsoPending
      cases alsoPending
      rfl
    · exact attached

theorem suffix (step : SmallStep around s t) : s.rest.history <:+ t.rest.history := by
  rcases step.history_cases with same | ⟨happening, told, _⟩
  · rw [same]
  · rw [told]
    exact List.suffix_cons ..

end SmallStep

/-! ## Many steps -/

/-- In a history no record has been given another id. -/
def Unrenamed (history : List Happening) : Prop := ∀ number id, .rename number id ∉ history

theorem Unrenamed.before {before after : List Happening} (unrenamed : Unrenamed after)
    (suffix : before <:+ after) : Unrenamed before := fun number id member =>
  unrenamed number id (suffix.subset member)

namespace SmallSteps

theorem suffix (steps : SmallSteps around s t) : s.rest.history <:+ t.rest.history := by
  induction steps with
  | refl => exact List.suffix_refl _
  | tail _ step ih => exact ih.trans step.suffix

theorem size_le (steps : SmallSteps around s t) : s.rest.records.size ≤ t.rest.records.size := by
  induction steps with
  | refl => exact Nat.le_refl _
  | tail _ step ih => exact ih.trans step.size_le

/-- A record keeps its id unless it is given another one. -/
theorem id_eq (steps : SmallSteps around s t) {number : Nat} (there : number < s.rest.records.size)
    (unrenamed : Unrenamed t.rest.history) : (t.rest.record number).id = (s.rest.record number).id := by
  induction steps with
  | refl => rfl
  | tail early step ih =>
    refine Eq.trans ?_ (ih (unrenamed.before step.suffix))
    cases step.touched (there.trans_le (size_le early)) with
    | kept same | assigned _ _ same | flagged _ _ same | finished _ _ same => rw [same]
    | altered name value _ same =>
      obtain ⟨_, _, assigned⟩ := ModuleRecord.assign_eq _ name value
      rw [same, assigned]
    | renamed id told =>
      rw [told] at unrenamed
      exact absurd (List.mem_cons_self ..) (unrenamed number id)

end SmallSteps

end Session

end ModuleSystem
