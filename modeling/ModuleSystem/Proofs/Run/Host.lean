import ModuleSystem.Proofs.Run.Basic

/-! # Loaders on a host

Whatever a loader does, the files of its host stay, and so do the addresses that the network knows. A
loader gives the text of an id only if the id is among its sources: it is in its table, it is a path
short enough to lead anywhere, or the network knows its address. -/

namespace ModuleSystem

open ModuleSystem.Action (Moves Flow)

namespace HostAction

theorem raise_moves {α : Type} (fault : Fault) : Moves (α := α) Host.Later (raise fault) := by
  unfold raise
  split
  · exact .interrupt ‹_›
  · exact .fail ‹_›

/-- An error that is raised is not a value. -/
theorem raise_ne_value {α : Type} (fault : Fault) (host : Host) (a : α) :
    (raise fault host).1 ≠ .value a := by
  unfold raise
  split
  · rintro ⟨⟩
  · rintro ⟨⟩

theorem note_moves (source text : String) : Moves Host.Later (note source text) :=
  .modify fun host => .write host ..

theorem ofExcept_moves {ε α : Type} (toFault : ε → Fault) (result : Except ε α) :
    Moves Host.Later (ofExcept toFault result) := by
  cases result with
  | ok a => exact .done a
  | error e => exact raise_moves _

theorem ofExcept_value {ε α : Type} {toFault : ε → Fault} {result : Except ε α} {host : Host} {a : α}
    (value : (ofExcept toFault result host).1 = .value a) : result = .ok a := by
  cases result with
  | ok _ =>
    cases value
    rfl
  | error e => exact absurd value (raise_ne_value _ _ _)

end HostAction

open HostAction (raise_moves note_moves ofExcept_moves)

theorem Network.routes_send (network : Network) (request : Request) (url : String) :
    (network.send request).routes.contains url = network.routes.contains url := by
  unfold Network.send
  cases known : network.routes.get? request.url with
  | none => rfl
  | some replies =>
    by_cases same : url = request.url
    · simp [Ordered.contains, same, known]
    · simp [Ordered.contains_set, same]

namespace Http

theorem attempt_moves (settings : Settings) (url : String) :
    Moves Host.Later (attempt settings url) := by
  refine .bind .get fun host => .bind (.modify fun host => ⟨rfl, ?_⟩) fun _ => ?_
  · exact host.network.routes_send _
  · split
    · exact raise_moves _
    · exact raise_moves _
    · unfold Response.read
      split
      · exact ofExcept_moves _ _
      · exact raise_moves _

theorem wait_moves (settings : Settings) (failed : Nat) :
    Moves Host.Later (wait settings failed) := by
  unfold wait
  split
  · exact .modify fun host => ⟨rfl, fun _ => rfl⟩
  · exact raise_moves _

theorem attempts_moves (settings : Settings) (url : String) (left failed : Nat) :
    Moves Host.Later (attempts settings url left failed) := by
  induction left generalizing failed with
  | zero => exact attempt_moves settings url
  | succ left ih =>
    refine .handle (attempt_moves settings url) fun fault => ?_
    exact .bind (.modify fun host => .write host ..) fun _ =>
      .bind (wait_moves settings failed) fun _ => ih _

theorem fetch_moves (settings : Datum) (url : String) : Moves Host.Later (fetch settings url) := by
  refine .bind (ofExcept_moves _ _) fun settings => ?_
  split
  · exact .pure none
  · exact .bind (attempts_moves settings url _ _) fun text => .pure (some text)

end Http

namespace Loader

theorem readText_moves (path : String) : Moves Host.Later (readText path) := by
  refine .bind .get fun host => ?_
  split
  · exact raise_moves _
  · exact .bind (ofExcept_moves _ _) fun _ => .bind (ofExcept_moves _ _) fun _ => .pure _

/-- A text is read from what is at a path without a NUL. -/
theorem exists_read_of_readText {path text : String} {host : Host}
    (value : (readText path host).1 = .value text) :
    FileTree.hasNul path = false ∧ ∃ content, host.files.read path = .ok content := by
  obtain ⟨_, _, got, value⟩ := Action.bind_value value
  cases got
  cases nul : FileTree.hasNul path with
  | true =>
    simp only [nul, if_true] at value
    cases value
  | false =>
    simp only [nul, Bool.false_eq_true, if_false] at value
    obtain ⟨content, _, found, _⟩ := Action.bind_value value
    exact ⟨rfl, content, HostAction.ofExcept_value (congrArg Prod.fst found)⟩

theorem resolve_moves (loader : Loader) (id : String) (directory : Option String) :
    Moves Host.Later (loader.resolve id directory) := by
  cases loader with
  | memory files base extensions => exact .done _
  | file base extensions =>
    refine .bind .get fun host => ?_
    split
    · exact .bind (note_moves _ _) fun _ => .pure _
    · exact .bind (note_moves _ _) fun _ => .pure _
  | search directories extensions =>
    refine .bind .get fun host => ?_
    split
    · exact .bind (note_moves _ _) fun _ => .pure _
    · exact .pure _
  | http scheme settings => exact .done _
  | prepared answers => exact ofExcept_moves _ _

theorem load_moves (loader : Loader) (id : String) : Moves Host.Later (loader.load id) := by
  cases loader with
  | memory files base extensions =>
    simp only [load]
    split
    · exact .done _
    · exact raise_moves _
  | file base extensions => exact .bind (readText_moves id) fun _ => .pure _
  | search directories extensions =>
    simp only [load]
    split
    · exact .bind (readText_moves id) fun _ => .pure _
    · exact raise_moves _
  | http scheme settings =>
    refine .bind (note_moves _ _) fun _ => .bind (Http.fetch_moves _ _) fun text => ?_
    cases text with
    | some text => exact .pure _
    | none => exact .pure _
  | prepared answers =>
    simp only [load]
    split
    · exact raise_moves _
    · split
      · exact .done _
      · exact raise_moves _

end Loader

end ModuleSystem
