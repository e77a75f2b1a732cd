import ModuleSystem.Proofs.Task
import ModuleSystem.Proofs.Trace.Entry
import ModuleSystem.Proofs.Trace.Run

/-! # Nested loads

Modules may ask for one another in any way, and still every task comes to an end. The loads that are
going on at one time have keys of their own, and all but the innermost one have a source, so they are
not more than there are keys with a source. Whoever asks for a module that is being loaded gets what it
exports so far, and is never refused. -/

namespace ModuleSystem.Session

variable {s : Session}

theorem room_le_ncard (s : Session) : s.room ≤ {key | s.rest.HasSource key}.ncard :=
  Set.ncard_le_ncard (fun _ member => member.1) s.rest.finite_hasSource

/-- Scripts do the same however requests beyond all possible loads are answered. -/
theorem onScript_eq {α : Type} {depth : Nat} {scope : Ordered Value}
    {x y : Script.FrameAction α} (room : s.room < depth)
    (agree : Script.FrameAgree (Ready [] depth) (Run []) x y) : onScript scope x s = onScript scope y s := by
  have same := (agree ⟨scope, s⟩ ⟨by simp, room⟩).1
  simp only [onScript, same]

theorem requireWithin_alike (beyond : Script.Requirer) (depth : Nat) :
    Script.Alike (Ready [] depth) (Run []) (requireWithin beyond depth false) require where
  closed := Ready.closed
  agree := require_agreeWithin beyond (Nat.le_refl depth) []

/-- Different loads with a source that are going on at one time are different keys with a source. -/
theorem length_le_ncard {world : World} {loads : List Loading}
    (distinct : (loads.map Loading.key).Nodup)
    (sourced : ∀ loading ∈ loads, world.HasSource loading.key) :
    loads.length ≤ {key | world.HasSource key}.ncard := by
  have sub : ((loads.map Loading.key).toFinset : Set String) ⊆ {key | world.HasSource key} := by
    intro key member
    simp only [Finset.mem_coe, List.mem_toFinset, List.mem_map] at member
    obtain ⟨loading, inside, rfl⟩ := member
    exact sourced loading inside
  have bound := Set.ncard_le_ncard sub world.finite_hasSource
  rw [Set.ncard_coe_finset, List.toFinset_card_of_nodup distinct, List.length_map] at bound
  exact bound

/-- What the loads that are going on at one moment are like. -/
structure Nests (s : Session) (m : Snapshot) : Prop where
  /-- They have keys of their own. -/
  distinct : (m.active.map Loading.key).Nodup
  /-- Those around the innermost one have a source. -/
  sourced : ∀ loading ∈ m.active.tail, s.rest.HasSource loading.key
  /-- The innermost one is nested in no more loads than there are keys with a source. -/
  around : m.active.tail.length ≤ {key | s.rest.HasSource key}.ncard
  /-- There are no more of them at all if the innermost one has a source, too. -/
  all : (∀ loading ∈ m.active, s.rest.HasSource loading.key) →
    m.active.length ≤ {key | s.rest.HasSource key}.ncard
  /-- Whatever is pending has a part, unless it was pending without one in the beginning. -/
  parts : ∀ key, m.cache.get? key = some (.pending none) → s.cache.get? key = some (.pending none)

theorem Tells.nests {t : Session} {later earlier : List Happening}
    (tells : Tells [] s t (later ++ earlier)) : Nests s ((s.snapshot []).replay earlier) := by
  have begun := tells.lawful.of_append.1
  have sound := (Snapshot.Sound.of_idle s.cache _).replay begun
  have distinct := sound.distinct.sublist ((List.tail_sublist _).map Loading.key)
  exact ⟨sound.distinct, sound.sourced, length_le_ncard distinct sound.sourced,
    length_le_ncard sound.distinct, fun key => begun.partless_before⟩

end ModuleSystem.Session
