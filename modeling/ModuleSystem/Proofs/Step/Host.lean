import ModuleSystem.Proofs.Step.Basic

/-! # What loaders raise

Whatever a loader does, its connections raise no errors of another kind afterwards than before. The
errors of files, documents and settings are not of the system of modules, so a loader raises only errors
of a family if its connections and its prepared answers do. -/

namespace ModuleSystem

open ModuleSystem.Action (Flow Keeps Ensures Upholds UpholdsAt)

/-- A host later on, whose connections raise nothing new. -/
structure Host.Kept (before after : Host) : Prop where
  later : before.Later after
  raises : ∀ Q, before.Raises Q → after.Raises Q

instance : Flow Host.Kept where
  refl _ := ⟨.refl _, fun _ => id⟩
  trans early late := ⟨early.later.trans late.later, fun Q => late.raises Q ∘ early.raises Q⟩

instance (K : Fault → Prop) : Keeps (Host.Raises K) Host.Kept where
  keeps kept := kept.raises K

namespace Fault

theorem isRequireError_coercion (problem : CoercionError) :
    (Fault.coercion problem).isRequireError = false := by
  cases problem <;> rfl

theorem isRequireError_file (problem : FileTree.Problem) (path : String) :
    (Fault.file problem path).isRequireError = false := by
  cases problem <;> rfl

theorem isRequireError_document (problem : Document.Problem) :
    (Fault.document problem).isRequireError = false := by
  cases problem with
  | json failure =>
    obtain ⟨problem, _⟩ := failure
    cases problem <;> rfl
  | yaml problem =>
    change kindIs problem.kind _ = false
    unfold Yaml.Problem.kind
    split <;> rfl
  | toml problem =>
    change kindIs problem.kind _ = false
    unfold Toml.Problem.kind
    split <;> rfl
  | xml problem =>
    change kindIs problem.kind _ = false
    unfold Xml.Problem.kind
    split <;> rfl
  | unsupportedFormat | badLabel => rfl

end Fault

open Fault.Broad (ordinary)

variable {K P : Fault → Prop} {α : Type} {host : Host}

/-- An action raises errors of one family only, if connections raise errors of another, and only errors
that interrupt a program interrupt it. -/
abbrev HostAction.Bounded (K P : Fault → Prop) (host : Host) (action : HostAction α) : Prop :=
  Ensures (Host.Raises K) Host.Kept host (fun _ => P)
    (fun _ fault => P fault ∧ fault.isInterruption = true) (fun _ _ => True) action

namespace HostAction

theorem raise_bounded {fault : Fault} (holds : P fault) : Bounded (α := α) K P host (raise fault) := by
  unfold raise
  split
  · exact .interrupt fun _ _ _ => ⟨holds, ‹_›⟩
  · exact .fail fun _ _ _ => holds

theorem write_bounded (level : LogLevel) (source text : String) :
    Bounded K P host (Action.modify fun host => host.write level source text) :=
  .modify (fun host _ _ => ⟨.write host .., fun _ => id⟩) fun _ _ _ => trivial

theorem ofExcept_bounded {ε : Type} {toFault : ε → Fault} {result : Except ε α}
    (holds : ∀ e, result = .error e → P (toFault e)) :
    Bounded K P host (ofExcept toFault result) := by
  cases result with
  | ok a => exact .idle
  | error e => exact raise_bounded (holds e rfl)

end HostAction

open HostAction (Bounded raise_bounded write_bounded ofExcept_bounded)

/-- What is sent takes replies away and adds none. -/
theorem Host.raises_send (raises : host.Raises P) (request : Request) :
    ({ host with network := host.network.send request } : Host).Raises P := by
  intro url replies fault known member
  unfold Network.send at known
  dsimp only at known
  split at known
  · rename_i old before
    rw [Ordered.get?_set] at known
    split at known
    · cases known
      refine raises _ old fault before ?_
      unfold Network.afterFirst at member
      split at member
      · exact List.mem_cons_of_mem _ member
      · exact member
    · exact raises url replies fault known member
  · exact raises url replies fault known member

namespace Http

variable [Fault.Broad P]

theorem read_bounded (url : String) (response : ModuleSystem.Response) :
    Bounded K P host (Response.read url response) := by
  unfold Response.read
  split
  · exact ofExcept_bounded fun problem _ => ordinary (Fault.isRequireError_document problem)
  · exact raise_bounded (ordinary rfl)

omit [Fault.Broad P] in
theorem send_bounded (request : ModuleSystem.Request) :
    Bounded K P host (Action.modify fun host =>
      { host with network := host.network.send request }) :=
  .modify (fun host _ _ => ⟨⟨rfl, host.network.routes_send request⟩,
    fun _ raises => host.raises_send raises request⟩) fun _ _ _ => trivial

theorem attempt_bounded (settings : Settings) (url : String) :
    Bounded P P host (attempt settings url) := by
  refine .bind .get fun now host _ ⟨same, raises⟩ => ?_
  refine .bind (send_bounded _) fun _ _ _ _ => ?_
  split
  · exact raise_bounded (ordinary rfl)
  · rename_i fault next
    obtain ⟨replies, known, first⟩ := Option.bind_eq_some_iff.mp next
    exact raise_bounded (raises url replies fault (same ▸ known) (List.mem_of_mem_head? first))
  · exact read_bounded url _

theorem wait_bounded (settings : Settings) (failed : Nat) :
    Bounded K P host (wait settings failed) := by
  unfold wait
  split
  · exact .modify (fun host _ _ => ⟨⟨rfl, fun _ => rfl⟩, fun _ => id⟩) fun _ _ _ => trivial
  · exact raise_bounded (ordinary rfl)

theorem attempts_bounded (settings : Settings) (url : String) (left failed : Nat) :
    Bounded P P host (attempts settings url left failed) := by
  induction left generalizing failed host with
  | zero => exact attempt_bounded settings url
  | succ left ih =>
    refine .handle (attempt_bounded settings url) fun fault _ _ _ => ?_
    exact .bind (write_bounded _ _ _) fun _ _ _ _ =>
      .bind (wait_bounded settings failed) fun _ _ _ _ => ih _

theorem fetch_bounded (settings : Datum) (url : String) : Bounded P P host (fetch settings url) := by
  refine .bind (ofExcept_bounded fun problem _ => ordinary (Fault.isRequireError_coercion problem))
    fun settings _ _ _ => ?_
  split
  · exact .idle
  · exact .bind (attempts_bounded settings url _ _) fun _ _ _ _ => .idle

end Http

namespace Loader

variable [Fault.Broad P]

theorem readText_bounded (path : String) : Bounded K P host (readText path) := by
  refine .bind .get fun now _ _ _ => ?_
  split
  · exact raise_bounded (ordinary rfl)
  · exact .bind (ofExcept_bounded fun problem _ => ordinary (Fault.isRequireError_file problem path))
      fun _ _ _ _ => .bind (ofExcept_bounded fun _ _ => ordinary rfl) fun _ _ _ _ => .idle

omit [Fault.Broad P] in
theorem resolve_bounded {loader : Loader} (own : loader.ResolvesBut P) (id : String)
    (directory : Option String) : Bounded K P host (loader.resolve id directory) := by
  cases loader with
  | memory files base extensions => exact .idle
  | file base extensions =>
    refine .bind .get fun host _ _ _ => ?_
    split
    · exact .bind (write_bounded _ _ _) fun _ _ _ _ => .idle
    · exact .bind (write_bounded _ _ _) fun _ _ _ _ => .idle
  | search directories extensions =>
    refine .bind .get fun host _ _ _ => ?_
    split
    · exact .bind (write_bounded _ _ _) fun _ _ _ _ => .idle
    · exact .idle
  | http scheme settings => exact .idle
  | prepared answers =>
    refine ofExcept_bounded fun fault failed => own answers id fault rfl ?_
    cases known : answers.resolutions.get? id with
    | none => rw [known] at failed; cases failed
    | some result => rw [known] at failed; exact congrArg some failed

theorem load_bounded {loader : Loader} (own : loader.Raises P) (id : String) :
    Bounded P P host (loader.load id) := by
  cases loader with
  | memory files base extensions =>
    simp only [load]
    split
    · exact .idle
    · exact raise_bounded (ordinary rfl)
  | file base extensions => exact .bind (readText_bounded id) fun _ _ _ _ => .idle
  | search directories extensions =>
    simp only [load]
    split
    · exact .bind (readText_bounded id) fun _ _ _ _ => .idle
    · exact raise_bounded (ordinary rfl)
  | http scheme settings =>
    refine .bind (write_bounded _ _ _) fun _ _ _ _ =>
      .bind (Http.fetch_bounded _ _) fun text _ _ _ => ?_
    cases text with
    | some text => exact .idle
    | none => exact .idle
  | prepared answers =>
    simp only [load]
    split
    · exact raise_bounded ((own answers rfl).errors id _ ‹_›)
    · split
      · exact .idle
      · exact raise_bounded (ordinary rfl)

end Loader

end ModuleSystem
