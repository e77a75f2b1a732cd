import ModuleSystem.Proofs.Trace.Entry

/-! # Exports in a history

The exports of a record stay as they are until others are assigned. So as long as a module is being
loaded and nothing is assigned to its record, whoever asks for it gets the very exports that its load
began with, and these are its value in the end. -/

namespace ModuleSystem.Snapshot

variable {source : String → Prop} {m : Snapshot} {happening : Happening} {events : List Happening}
  {key : String} {number : Nat} {value : Value}

theorem exportsOf_eq (known : m.exports[number]? = some value) : m.exportsOf number = value := by
  rw [exportsOf, known, Option.getD_some]

theorem exports_next (known : m.exports[number]? = some value)
    (unassigned : ¬ happening.assigns number) : (m.next happening).exports[number]? = some value := by
  rcases happening with (_ | _ | _ | _ | _ | _ | _ | _) | _ | created | ⟨other, assigned⟩ | _ | _
  case create =>
    obtain ⟨inside, _⟩ := List.getElem?_eq_some_iff.mp known
    exact (List.getElem?_append_left inside).trans known
  case assign => exact (List.getElem?_set_ne unassigned).trans known
  all_goals exact known

theorem exports_replay (known : m.exports[number]? = some value)
    (unassigned : ∀ happening ∈ events, ¬ happening.assigns number) :
    (m.replay events).exports[number]? = some value := by
  induction events with
  | nil => exact known
  | cons happening earlier ih =>
    rw [List.forall_mem_cons] at unassigned
    exact exports_next (ih unassigned.2) unassigned.1

/-- Exports are handed out: lent to a module that asks for an unfinished one, or given to the script
with which a module begins. -/
def HandsOut (number : Nat) (value : Value) (events : List Happening) : Prop :=
  .lend number value ∈ events ∨ .enter number value ∈ events

theorem Allows.handsOut
    (allowed : m.Allows source (.lend number value) ∨ m.Allows source (.enter number value)) :
    m.exportsOf number = value := by
  rcases allowed with ⟨_, same⟩ | ⟨_, same⟩
  · exact same
  · exact same

namespace Lawful

variable {earlier : List Happening} {part : Option Nat}

/-- Whatever a history hands out are the exports of the record at that moment. -/
theorem handsOut (lawful : m.Lawful source events) (handed : HandsOut number value events) :
    ∃ later earlier, events = later ++ earlier ∧ (m.replay earlier).exportsOf number = value := by
  have at_split {happening : Happening} (member : happening ∈ events) :
      ∃ later earlier, events = later ++ earlier ∧ (m.replay earlier).Allows source happening := by
    obtain ⟨later, earlier, rfl⟩ := List.append_of_mem member
    exact ⟨later ++ [happening], earlier, by simp, lawful.allowed⟩
  rcases handed with member | member
  · obtain ⟨later, earlier, split, allowed⟩ := at_split member
    exact ⟨later, earlier, split, Allows.handsOut (.inl allowed)⟩
  · obtain ⟨later, earlier, split, allowed⟩ := at_split member
    exact ⟨later, earlier, split, Allows.handsOut (.inr allowed)⟩

/-- The value of a module are the exports of its record at the end of its load. -/
theorem resolved_exports
    (lawful : m.Lawful source
      (.cache (.resolve key value) :: (events ++ .cache (.load key part) :: earlier)))
    (unstarted : key ∉ started events) :
    ∃ number object, part = some number ∧
      (m.replay earlier).exports[number]? = some (.exports object) ∧
      (m.replay (events ++ .cache (.load key part) :: earlier)).exportsOf number = value := by
  obtain ⟨number, loads, same⟩ := lawful.2
  obtain ⟨begun, after⟩ := lawful.1.of_append
  obtain ⟨_, _, loaded, object, rfl, created⟩ := begun.2
  have pending := loads.pending
  rw [replay_append] at pending
  have first := after.pending_before (fun _ => unstarted) pending
  rw [replay, next, Ordered.get?_set_self] at first
  cases first
  exact ⟨_, object, rfl, created, same⟩

/-- If nothing is assigned to the record of a module while it is being loaded, then everything that is
handed out meanwhile is one object, and so is the value of the module. -/
theorem one_object
    (lawful : m.Lawful source
      (.cache (.resolve key value) :: (events ++ .cache (.load key (some number)) :: earlier)))
    (unstarted : key ∉ started events)
    (unassigned : ∀ happening ∈ events, ¬ happening.assigns number) :
    ∃ object, value = .exports object ∧ (m.replay earlier).exportsOf number = .exports object ∧
      ∀ handed, HandsOut number handed events → handed = .exports object := by
  obtain ⟨_, object, part, created, same⟩ := lawful.resolved_exports unstarted
  cases part
  have stays {suffix : List Happening} (sub : ∀ happening ∈ suffix, happening ∈ events) :
      (m.replay (suffix ++ .cache (.load key (some number)) :: earlier)).exportsOf number =
        .exports object := by
    rw [replay_append]
    exact exportsOf_eq (exports_replay (exports_next created (by simp [Happening.assigns]))
      fun happening member => unassigned happening (sub happening member))
  refine ⟨object, same.symm.trans (stays fun _ member => member), exportsOf_eq created, ?_⟩
  intro handed out
  obtain ⟨begun, after⟩ := lawful.1.of_append
  obtain ⟨later, suffix, rfl, given⟩ := after.handsOut out
  rw [← given, ← replay_append]
  exact stays fun happening member => List.mem_append_right later member

end Lawful

end ModuleSystem.Snapshot
