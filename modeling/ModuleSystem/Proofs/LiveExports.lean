import ModuleSystem.Proofs.Request
import ModuleSystem.Proofs.Task
import ModuleSystem.Proofs.Trace.Exports
import ModuleSystem.Proofs.Trace.Run

/-! # Live exports

Modules that ask for one another in a cycle share their exports before these are complete. What is
handed out are the exports of the record at that moment, so it is one object throughout as long as
nothing is assigned to the record, and attributes that are set later are seen by whoever has it. -/

namespace ModuleSystem

open Session (Tells Answered)

@[simp] theorem Heap.attributes_setAttribute (heap : Heap) {object : Nat}
    (inside : object < heap.exports.size) (name : String) (value : Value) :
    (heap.setAttribute object name value).attributes object =
      (heap.attributes object).set name value := by
  rw [attributes, attributes, setAttribute, Array.getElem?_modify, if_pos rfl,
    Array.getElem?_eq_getElem inside]
  rfl

namespace Script

variable {s : Session}

/-- An attribute that has been set on an object is seen through every reference to the object. -/
theorem member_setMember {object : Nat} (inside : object < s.rest.heap.exports.size) (name : String)
    (value : Value) :
    (setMember (.exports object) name value s).1 = .value () ∧
      (member (.exports object) name (setMember (.exports object) name value s).2).1 =
        .value value := by
  refine ⟨rfl, ?_⟩
  have found : ((s.rest.heap.setAttribute object name value).attributes object).get? name =
      some value := by
    rw [s.rest.heap.attributes_setAttribute inside, Ordered.get?_set_self]
  simp only [member, member?, setMember, Session.change, Action.modify, Cache.Held.update,
    Action.bind_apply, Session.world, Action.gets, found]
  rfl

/-- Assigning to a name changes the variables of a script and nothing else. -/
theorem store_name (require : Requirer) (name : String) (value : Value) (frame : Frame) :
    (store require (.name name) value frame).2.session = frame.session := rfl

end Script

namespace Session

variable {s t : Session}

/-- A script begins with the exports and the record of its module. -/
theorem moduleScope_exports (world : World) (number : Nat) :
    (moduleScope world number).get? "exports" = some (world.record number).exports ∧
      (moduleScope world number).get? "module" = some (.record number) := by
  simp [moduleScope, Ordered.ofList, Ordered.get?_set]

/-- What a history that begins with a session says of exports that are handed out. The moments of the
history are the snapshots that its earlier parts lead to. -/
structure SharesExports (s : Session) (events : List Happening) : Prop where
  /-- What a module in a cycle is lent are the exports of the record of a module that is being loaded. -/
  lends : ∀ later earlier number value, events = later ++ .lend number value :: earlier →
    (∃ key, ((s.snapshot []).replay earlier).cache.get? key = some (.pending (some number))) ∧
      ((s.snapshot []).replay earlier).exportsOf number = value
  /-- What a script begins with are the exports of the record of its module. -/
  enters : ∀ later earlier number value, events = later ++ .enter number value :: earlier →
    (∃ key, ((s.snapshot []).replay earlier).Loads key number) ∧
      ((s.snapshot []).replay earlier).exportsOf number = value
  /-- The value of a module are the exports of its record at the end of its load. They are the object
  that the record began with, and all that was handed out, unless others have been assigned. -/
  resolves : ∀ later during earlier key part value,
    events = later ++ .cache (.resolve key value) ::
      (during ++ .cache (.load key part) :: earlier) → key ∉ started during →
    ∃ number object, part = some number ∧
      ((s.snapshot []).replay (during ++ .cache (.load key part) :: earlier)).exportsOf number = value ∧
      ((s.snapshot []).replay earlier).exportsOf number = .exports object ∧
      ((∀ happening ∈ during, ¬ happening.assigns number) → value = .exports object ∧
        ∀ handed, Snapshot.HandsOut number handed during → handed = .exports object)

theorem Tells.sharesExports {events : List Happening} (tells : Tells [] s t events) :
    SharesExports s events where
  lends := by
    rintro later earlier number value rfl
    exact tells.lawful.allowed
  enters := by
    rintro later earlier number value rfl
    exact tells.lawful.allowed
  resolves := by
    rintro later during earlier key part value rfl unstarted
    have lawful := tells.lawful.of_append.1
    obtain ⟨number, object, rfl, created, same⟩ := lawful.resolved_exports unstarted
    refine ⟨number, object, rfl, same, Snapshot.exportsOf_eq created, fun unassigned => ?_⟩
    obtain ⟨other, value, began, handed⟩ := lawful.one_object unstarted unassigned
    rw [Snapshot.exportsOf_eq created] at began
    cases began
    exact ⟨value, handed⟩

/-- A request for a module that is being loaded gives the exports of its record and has no work done. -/
def Lends (action : SessionAction Value) (s : Session) (key : String) (number : Nat) : Prop :=
  ∃ t, Answered s t [.lend number (t.rest.record number).exports, .cache (.cycle key number)] ∧
    action s = (.value (t.rest.record number).exports, t) ∧
    (number < s.rest.records.size → (t.rest.record number).exports = (s.rest.record number).exports)

theorem dispatch_lends (asMain : Bool) {parent : Option Nat} {raw : Value} {key : String} {number : Nat}
    (target : target? parent raw s = some key)
    (known : s.cache.get? key = some (.pending (some number))) :
    Lends (dispatch require asMain parent raw) s key number := by
  obtain ⟨t, answered, lent⟩ := dispatch_of_pending require asMain target known
  refine ⟨t, answered, lent, fun inside => ?_⟩
  simp only [World.record, answered.records number inside]

/-- Cyclic requests hand out the live exports. In any session a request that goes to a key that is being
loaded gives the exports that its record has at that moment. Over any tasks all that is handed out
during a load, its value, and the exports that the script begins with are one object, unless others are
assigned to the record. Assigning to names assigns nothing to records, and attributes that are set on an
object are seen through every reference to it. -/
theorem cycles_share_live_exports :
    (∀ (s : Session) key number, s.cache.get? key = some (.pending (some number)) →
      (∀ parent raw, target? parent raw s = some key → Lends (require parent raw) s key number) ∧
      ∀ path, target? none (.text (Path.absolute s.rest.host.files.workingDirectory path)) s =
        some key → Lends (requireMain path) s key number) ∧
    (∀ (s : Session) tasks, ∃ events, Tells [] s (s.after tasks) events ∧ SharesExports s events) ∧
    (∀ world number, (moduleScope world number).get? "exports" = some (world.record number).exports ∧
      (moduleScope world number).get? "module" = some (.record number)) ∧
    (∀ require name value frame,
      (Script.store require (.name name) value frame).2.session = frame.session) ∧
    ∀ (s : Session) object name value, object < s.rest.heap.exports.size →
      (Script.setMember (.exports object) name value s).1 = .value () ∧
        (Script.member (.exports object) name
          (Script.setMember (.exports object) name value s).2).1 = .value value := by
  refine ⟨fun s key number known => ⟨?_, ?_⟩, fun s tasks => ?_, moduleScope_exports, Script.store_name,
    fun s object name value inside => Script.member_setMember inside name value⟩
  · intro parent raw target
    rw [require_eq_dispatch]
    exact dispatch_lends false target known
  · intro path target
    unfold Lends
    rw [requireMain_eq_dispatch]
    exact dispatch_lends true target known
  · obtain ⟨events, tells⟩ := (after_run s tasks).tells
    exact ⟨events, tells, tells.sharesExports⟩

end Session

end ModuleSystem
