import ModuleSystem.Proofs.Run.Basic
import ModuleSystem.Proofs.Walk.Value

/-! # Changes of a world

What scripts change of a world by themselves: marks that they give, attributes that they set, errors that they
make and link to their causes. They leave the host, the loaders and the table of modules as they are, and
they make no records. -/

namespace ModuleSystem

open Value (Reference)

/-- An error of the system as a script makes it: a failure has been caused by another error. -/
inductive Fault.Made : Fault → Option Raised → Prop
  | requireError (arguments : List Datum) : Made (.requireError arguments) none
  | unsupportedProtocol (protocol : Datum) : Made (.unsupportedProtocol protocol) none
  | noBareLoader (id : Datum) : Made (.noBareLoader id) none
  | cyclicRequire (id : Datum) : Made (.cyclicRequire id) none
  | loaderFailure (id : Datum) (cause : Raised) : Made (.loaderFailure id cause.fault false) (some cause)
  | evaluationFailure (id : Datum) (cause : Raised) :
      Made (.evaluationFailure id cause.fault false) (some cause)

/-- What is told of scripts: what they assign to records, and the errors of the system that they make. -/
inductive Happening.Scripted : Happening → Prop
  | assign (number : Nat) (exports : Value) : Scripted (.assign number exports)
  | rename (number : Nat) (id : Value) : Scripted (.rename number id)
  | flag (number : Nat) (loaded : Value) : Scripted (.flag number loaded)
  | alter (number : Nat) (name : String) (value : Value) : Scripted (.alter number name value)
  | make (fault : Fault) : Scripted (.make fault)

theorem ModuleRecord.Within.assign {Q : Reference → Prop} {record : ModuleRecord} (holds : record.Within Q)
    (name : String) {value : Value} (new : value.Within Q) : (record.assign name value).Within Q := by
  unfold ModuleRecord.assign
  split
  · exact { holds with }
  · exact { holds with }
  · exact { holds with assigned := holds.assigned.set name new }

namespace World

variable {world : World} {Q R : Reference → Prop}

theorem record_congr {after : World} (same : after.records = world.records) (number : Nat) :
    after.record number = world.record number := by
  unfold record
  rw [same]

theorem record_updateRecord (world : World) (number other : Nat)
    (f : ModuleRecord → ModuleRecord) :
    (world.updateRecord number f).record other =
      if other = number ∧ other < world.records.size then f (world.record other)
      else world.record other := by
  unfold updateRecord record
  rw [Array.getElem?_modify]
  by_cases same : number = other
  · subst same
    cases known : world.records[number]? with
    | none => simp [Nat.not_lt.mpr (Array.getElem?_eq_none_iff.mp known)]
    | some found => simp [(Array.getElem?_eq_some_iff.mp known).1]
  · simp [same, Ne.symm same]

namespace Within

theorem updateRecord (holds : world.Within Q) (number : Nat) {f : ModuleRecord → ModuleRecord}
    (keeps : ∀ record, record.Within Q → (f record).Within Q) : (world.updateRecord number f).Within Q :=
  { holds with
    records := fun other => by
      rw [record_updateRecord]
      split
      · exact keeps _ (holds.records other)
      · exact holds.records other }

theorem tell (holds : world.Within Q) (happening : Happening) : (world.tell happening).Within Q :=
  { holds with }

theorem makeError (holds : world.Within Q) (fault : Fault) {cause : Option Raised}
    (known : ∀ raised, cause = some raised → Q (.error raised)) :
    (world.makeError fault cause).Within Q := by
  refine { holds with heap := ?_ }
  cases cause with
  | none => exact holds.heap.marked
  | some cause => exact (holds.heap.link _ (known cause rfl)).marked

end Within

/-- What a script changes of a world by itself, if what it has at hand is of one kind. -/
inductive Change (Q : Reference → Prop) (world : World) : World → Prop
  | mark : Change Q world { world with heap := world.heap.marked }
  | data (datum : Datum) : Change Q world { world with heap := (Value.ofDatum world.heap datum).2 }
  | setAttribute (number : Nat) (name : String) {value : Value} (holds : value.Within Q) :
      Change Q world { world with heap := world.heap.setAttribute number name value }
  | assign (number : Nat) {exports : Value} (holds : exports.Within Q) :
      Change Q world (world.assignExports number exports)
  | rename (number : Nat) {id : Value} (holds : id.Within Q) : Change Q world (world.assignId number id)
  | flag (number : Nat) {loaded : Value} (holds : loaded.Within Q) :
      Change Q world (world.assignLoaded number loaded)
  | alter (number : Nat) {name : String} {value : Value} (holds : value.Within Q)
      (other : name ≠ "children") : Change Q world (world.assignAttribute number name value)
  | link (serial : Nat) {cause : Raised} (holds : Q (.error cause)) : Change Q world (world.link serial cause)
  | make {fault : Fault} {cause : Option Raised} (made : fault.Made cause)
      (holds : ∀ raised, cause = some raised → Q (.error raised)) :
      Change Q world (world.makeError fault cause)

namespace Change

variable {after : World}

theorem mono (change : world.Change Q after) (sub : ∀ reference, Q reference → R reference) :
    world.Change R after := by
  cases change with
  | mark => exact .mark
  | data datum => exact .data datum
  | setAttribute number name holds => exact .setAttribute number name (holds.mono sub)
  | assign number holds => exact .assign number (holds.mono sub)
  | rename number holds => exact .rename number (holds.mono sub)
  | flag number holds => exact .flag number (holds.mono sub)
  | alter number holds other => exact .alter number (holds.mono sub) other
  | link serial holds => exact .link serial (sub _ holds)
  | make made holds => exact .make made fun raised same => sub _ (holds raised same)

theorem step (change : world.Change Q after) : world.Step after := by
  cases change with
  | mark => exact .heap (Nat.le_refl _)
  | data datum => exact .heap (Value.ofDatum_grows world.heap datum)
  | setAttribute => exact .heap (by simp [Heap.setAttribute])
  | assign => exact .assign
  | rename => exact .rename
  | flag => exact .flag
  | alter => exact .alter
  | link => exact .heap (Nat.le_refl _)
  | make => exact .make

theorem main_eq (change : world.Change Q after) : after.main = world.main := by
  cases change <;> rfl

theorem modules_eq (change : world.Change Q after) : after.modules = world.modules := by
  cases change <;> rfl

theorem host_eq (change : world.Change Q after) : after.host = world.host := by
  cases change <;> rfl

theorem size_eq (change : world.Change Q after) : after.records.size = world.records.size := by
  cases change with
  | assign | rename | flag | alter => exact Array.size_modify ..
  | _ => rfl

/-- A script updates one record at most, of which it keeps the parent and the children, and whether its
module is loaded unless it assigns that. -/
theorem records_cases (change : world.Change Q after) :
    after.records = world.records ∨ ∃ number f, after.records = (world.updateRecord number f).records ∧
      (∀ record : ModuleRecord, (f record).parent = record.parent ∧ (f record).children = record.children) ∧
      ((∀ record : ModuleRecord, (f record).loaded = record.loaded) ∨
        ∃ loaded, after.history = .flag number loaded :: world.history) := by
  cases change with
  | @assign number exports =>
    exact .inr ⟨number, fun record => { record with exports }, rfl, fun _ => ⟨rfl, rfl⟩, .inl fun _ => rfl⟩
  | @rename number id =>
    exact .inr ⟨number, fun record => { record with id }, rfl, fun _ => ⟨rfl, rfl⟩, .inl fun _ => rfl⟩
  | @flag number loaded =>
    exact .inr ⟨number, fun record => { record with loaded }, rfl, fun _ => ⟨rfl, rfl⟩,
      .inr ⟨loaded, rfl⟩⟩
  | @alter number name value =>
    exact .inr ⟨number, fun record => record.assign name value, rfl,
      fun record => ⟨record.parent_assign name value, record.children_assign name value⟩,
      .inl fun record => record.loaded_assign name value⟩
  | _ => exact .inl rfl

theorem parent_eq (change : world.Change Q after) (number : Nat) :
    (after.record number).parent = (world.record number).parent := by
  rcases change.records_cases with same | ⟨other, f, same, keeps, _⟩
  · rw [record_congr same]
  · rw [record_congr same, record_updateRecord]
    split
    · exact (keeps _).1
    · rfl

theorem children_eq (change : world.Change Q after) (number : Nat) :
    (after.record number).children = (world.record number).children := by
  rcases change.records_cases with same | ⟨other, f, same, keeps, _⟩
  · rw [record_congr same]
  · rw [record_congr same, record_updateRecord]
    split
    · exact (keeps _).2
    · rfl

/-- Whether a record is loaded changes only if a script assigns it. -/
theorem loaded_cases (change : world.Change Q after) (number : Nat) :
    (after.record number).loaded = (world.record number).loaded ∨
      ∃ loaded, after.history = .flag number loaded :: world.history := by
  rcases change.records_cases with same | ⟨other, f, same, _, loaded⟩
  · exact .inl (by rw [record_congr same])
  · rw [record_congr same, record_updateRecord]
    split
    · rename_i here
      obtain ⟨rfl, _⟩ := here
      exact loaded.imp_left fun kept => kept _
    · exact .inl rfl

/-- What a script adds to a record is told, and it is never the children. -/
theorem assigned_cases (change : world.Change Q after) {number : Nat} {name : String} {value : Value}
    (known : (after.record number).assigned.get? name = some value) :
    (world.record number).assigned.get? name = some value ∨
      after.history = .alter number name value :: world.history ∧ name ≠ "children" := by
  cases change with
  | assign | rename | flag =>
    change ((world.updateRecord _ _).record number).assigned.get? name = _ at known
    rw [record_updateRecord] at known
    split at known
    · exact .inl known
    · exact .inl known
  | @alter other _ _ _ apart =>
    change ((world.updateRecord other _).record number).assigned.get? name = _ at known
    rw [record_updateRecord] at known
    split at known
    · rename_i here
      rw [here.1] at known ⊢
      exact ((world.record other).assigned_assign known).imp_right fun ⟨same, held⟩ => by
        subst same held
        exact ⟨rfl, apart⟩
    · exact .inl known
  | _ => exact .inl known

/-- What a script assigns or makes is told. -/
theorem history_cases (change : world.Change Q after) :
    after.history = world.history ∨
      ∃ happening : Happening, after.history = happening :: world.history ∧ happening.Scripted := by
  cases change with
  | assign => exact .inr ⟨_, rfl, .assign _ _⟩
  | rename => exact .inr ⟨_, rfl, .rename _ _⟩
  | flag => exact .inr ⟨_, rfl, .flag _ _⟩
  | alter => exact .inr ⟨_, rfl, .alter _ _ _⟩
  | make => exact .inr ⟨_, rfl, .make _⟩
  | _ => exact .inl rfl

/-- A script brings in nothing but what it has at hand. -/
theorem within (change : world.Change Q after) (holds : world.Within Q) : after.Within Q := by
  cases change with
  | mark => exact { holds with heap := holds.heap.marked }
  | data datum => exact { holds with heap := (Value.ofDatum_within holds.heap datum).2 }
  | setAttribute number name new => exact { holds with heap := holds.heap.setAttribute number name new }
  | @assign number exports new =>
    exact (holds.updateRecord (f := fun record => { record with exports }) number fun _ old =>
      { old with exports := new }).tell _
  | @rename number id new =>
    exact (holds.updateRecord (f := fun record => { record with id }) number fun _ old =>
      { old with id := new }).tell _
  | @flag number loaded new =>
    exact (holds.updateRecord (f := fun record => { record with loaded }) number fun _ old =>
      { old with loaded := new }).tell _
  | alter number new => exact (holds.updateRecord number fun _ old => old.assign _ new).tell _
  | link serial new => exact { holds with heap := holds.heap.link serial new }
  | make _ known => exact holds.makeError _ known

end Change

end World

end ModuleSystem
