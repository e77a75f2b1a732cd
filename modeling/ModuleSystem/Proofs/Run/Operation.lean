import ModuleSystem.Proofs.Run.Host
import ModuleSystem.Proofs.Walk.Value

/-! # Runs of single operations

Everything that a session does without running a script or loading a module is a run inside whatever is being
loaded: raising errors, making values, resolving identifiers. It also moves along any other relation that
small steps of the world follow. -/

namespace ModuleSystem

open ModuleSystem.Action (Moves Flow)
open Session (Run)

variable {α : Type}

namespace Session

/-- Preorders of sessions along which errors are raised, the log is written and loaders are asked. -/
class Calm (R : Session → Session → Prop) : Prop extends Flow R where
  host (s : Session) {host : Host} (later : s.rest.host.Later host) :
    R s ⟨s.cache, { s.rest with host }⟩
  heap (s : Session) {heap : Heap} (same : heap.exports = s.rest.heap.exports) :
    R s ⟨s.cache, { s.rest with heap }⟩
  calls (s : Session) (number : Nat) {f : Mounted → Mounted}
    (same : ∀ mounted, (f mounted).loader = mounted.loader ∧ (f mounted).loads = mounted.loads) :
    R s ⟨s.cache, s.rest.updateMounted number f⟩

/-- Preorders of sessions along which everything goes on that neither loads a module nor makes one the
main module. Errors that are remembered stay so. -/
class Tolerant (R : Session → Session → Prop) : Prop extends Flow R where
  step (s : Session) {world : World} (step : s.rest.Step world) (main : world.main = s.rest.main) :
    R s ⟨s.cache, world⟩
  answer (s : Session) {event : Cache.Event Nat Value Raised} (answers : s.cache.Answers event) :
    R s (s.update (noteEvent event))
  lend (s : Session) {key : String} {number : Nat}
    (pending : s.cache.get? key = some (.pending (some number))) : R s (lendExports number s).2
  recalls {s t : Session} (moved : R s t) (error : Raised) :
    Remembering.remembers s error → Remembering.remembers t error

instance (R : Session → Session → Prop) [Tolerant R] : Calm R where
  host s _ later := Tolerant.step s (.host later) rfl
  heap s _ same := Tolerant.step s (.heap (Nat.le_of_eq (congrArg Array.size same).symm)) rfl
  calls s _ _ same := Tolerant.step s (.mounted fun mounted => (same mounted).1) rfl

instance (loadings : List Loading) : Tolerant (Run loadings) where
  step s _ step _ := .step (.refl loadings s) step
  answer s _ answers := .answer (.refl loadings s) answers
  lend s _ _ pending := .lend (.refl loadings s) pending
  recalls run _ := fun ⟨key, known⟩ => ⟨key, run.keeps_entry known⟩

section

variable {R : Session → Session → Prop} [Calm R]

theorem world_moves : Moves R world := .gets _

theorem mark_moves (fault : Fault) : Moves R (mark fault) :=
  .bind world_moves fun _ => .bind (.modify fun s => Calm.heap s rfl) fun _ => .pure _

theorem raiseAgain_moves (raised : Raised) : Moves (α := α) R (raiseAgain raised) := by
  unfold raiseAgain
  split
  · exact .interrupt ‹_›
  · exact .fail ‹_›

theorem raise_moves (fault : Fault) : Moves (α := α) R (raise fault) :=
  .bind (mark_moves fault) fun _ => raiseAgain_moves _

theorem raiseBecause_moves (fault : Fault) (cause : Raised) : Moves (α := α) R (raiseBecause fault cause) :=
  .bind (mark_moves fault) fun _ => .bind (.modify fun s => Calm.heap s rfl) fun _ => raiseAgain_moves _

theorem note_moves (source text : String) : Moves R (note source text) :=
  .modify fun s => Calm.host s (.write s.rest.host ..)

theorem onHost_moves {action : HostAction α} (moves : Moves Host.Later action) :
    Moves R (onHost action) := fun s => ⟨rfl, Calm.host s (moves s.rest.host).moved, trivial⟩

theorem ofExcept_moves (result : Except Fault α) : Moves R (ofExcept result) := by
  cases result with
  | ok a => exact .done a
  | error fault => exact raise_moves fault

theorem recordCall_moves (number : Nat) (call : LoaderCall) : Moves R (recordCall number call) :=
  .modify fun s => Calm.calls s number fun mounted => by
    split
    · exact ⟨rfl, rfl⟩
    · exact ⟨rfl, rfl⟩

theorem fromLoader_moves (id : Datum) {action : HostAction α} (moves : Moves Host.Later action) :
    Moves R (fromLoader id action) := by
  refine .bind (onHost_moves moves) fun outcome => ?_
  split
  · exact .pure _
  · unfold raiseLoaderError
    split
    · exact raise_moves _
    · exact .bind (mark_moves _) fun _ => raiseBecause_moves _ _
  · exact raise_moves _

theorem resolve_moves (raw : Value) (parent : Option Nat) : Moves R (resolve raw parent) :=
  .bind .get fun _ => .bind (note_moves _ _) fun _ => .bind (ofExcept_moves _) fun _ =>
    .bind (recordCall_moves _ _) fun _ =>
      .bind (fromLoader_moves _ (Loader.resolve_moves _ _ _)) fun _ => .pure _

end

section

variable {R : Session → Session → Prop} [Tolerant R]

theorem change_moves {f : World → World} (step : ∀ world : World, world.Step (f world))
    (main : ∀ world : World, (f world).main = world.main) : Moves R (change f) :=
  .modify fun s => Tolerant.step s (step s.rest) (main s.rest)

theorem ofDatum_moves (datum : Datum) : Moves R (ofDatum datum) := by
  intro s
  exact ⟨rfl, Tolerant.step s (.heap (Value.ofDatum_grows s.rest.heap datum)) rfl, trivial⟩

theorem newRecord_moves (id : String) (filename : Option String) (parent : Option Nat) :
    Moves R (newRecord id filename parent) :=
  .bind world_moves fun _ => .bind (change_moves (fun _ => .create) fun _ => rfl) fun _ => .pure _

theorem exportsOf_moves (number : Nat) : Moves R (exportsOf number) := .gets _

end

end Session

end ModuleSystem
