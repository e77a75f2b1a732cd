import ModuleSystem.Proofs.Run.Require
import ModuleSystem.Session

/-! # Tasks

A task is what a session is asked to do from outside: to answer a request, to run a file as the main
module, or to run a script on the variables that last. Every task is a run outside of all loads, and so
are any number of tasks in a row. -/

namespace ModuleSystem

open ModuleSystem.Action (Moves Agree Flow)
open Session (Run Tolerant)

/-- What a session can be asked to do from outside. -/
inductive Task where
  | require (parent : Option Nat) (raw : Value)
  | runMain (path : String)
  | runScript (source : Datum)

/-- The module for which a task asks, if it is asked for by one. -/
def Task.parent? : Task → Option Nat
  | .require parent _ => parent
  | .runMain _ | .runScript _ => none

namespace Session

/-- The session after a task, however it ends. -/
def perform (s : Session) : Task → Session
  | .require parent raw => (require parent raw s).2
  | .runMain path => (runMain path s).2
  | .runScript source => (runScript source s).2

/-- The session after some tasks in order. -/
def after (s : Session) (tasks : List Task) : Session := tasks.foldl perform s

/-- The session after a task whose requests are answered in some way, however it ends. -/
def performWith (inner : Script.Requirer) (s : Session) : Task → Session
  | .require parent raw => (dispatch inner false parent raw s).2
  | .runMain path => (dispatch inner true none
      (.text (Path.absolute s.rest.host.files.workingDirectory path)) s).2
  | .runScript source => (evaluateSource inner source s).2

/-- A task asks for a module in some session: what the task comes to depends on the answer that is given
there. -/
def Asks (s t : Session) : Prop :=
  ∃ task inner, (∀ u, u ≠ t → ∀ parent raw, inner parent raw u = require parent raw u) ∧
    performWith inner s task ≠ s.perform task

theorem execute_snd (action : SessionAction Value) (withMain : Bool) (s : Session) :
    (execute action withMain s).2 = (action s).2 := by
  unfold execute
  simp only [Action.bind_apply, Action.attempt, Session.world, Action.gets]
  generalize action s = result
  obtain ⟨outcome, t⟩ := result
  cases outcome <;> rfl

theorem performWith_require (s : Session) (task : Task) : performWith require s task = s.perform task := by
  cases task with
  | require parent raw => exact congrArg (fun answer => (answer parent raw s).2) require_eq_dispatch.symm
  | runMain path => rw [perform, runMain, execute_snd, requireMain_eq_dispatch, performWith]
  | runScript source => rw [perform, runScript, execute_snd, performWith]

/-- Scripts outside of loads get their requests answered by runs. -/
theorem require_alike : Script.Alike (fun _ => True) (Run []) require require where
  closed := fun _ _ _ _ => trivial
  agree parent raw := (require_moves parent raw).agree

section

variable {R : Session → Session → Prop} [Tolerant R]

theorem execute_moves {action : SessionAction Value} (moves : Moves R action) (withMain : Bool) :
    Moves R (execute action withMain) := by
  refine .attempt_bind moves fun outcome => ?_
  cases outcome with
  | value value => exact (Moves.bind world_moves fun _ => .pure _).agree
  | error raised => exact (Moves.bind world_moves fun _ => .pure _).agree
  | interruption raised =>
    exact fun s interrupts => Moves.bind world_moves (fun _ => .interrupt interrupts) s

theorem scriptScope_moves : Moves R scriptScope := by
  refine .bind world_moves fun current => ?_
  split
  · exact .pure _
  · exact .bind (newRecord_moves _ _ _) fun _ => .bind (exportsOf_moves _) fun _ =>
      .bind (change_moves (fun _ => .scope) fun _ => rfl) fun _ => .pure _

theorem onScript_moves {α : Type} (scope : Ordered Value) {action : Script.FrameAction α}
    (agree : Script.FrameAgree (fun _ => True) R action action) : Moves R (onScript scope action) :=
  fun s =>
    have ran := agree ⟨scope, s⟩ trivial
    ⟨rfl, Flow.trans ran.moved (Tolerant.step _ .scope rfl), ran.fair⟩

/-- A script moves along every relation along which its requests are answered. -/
theorem evaluateSource_moves (alike : Script.Alike (fun _ => True) R require require) (source : Datum) :
    Moves R (evaluateSource require source) := by
  refine .bind scriptScope_moves fun scope => .bind (scriptText_moves source) fun text => ?_
  split
  · exact onScript_moves scope (Script.evaluate_agree alike _)
  · exact .bind (readStatements_moves source) fun statements =>
      .bind (onScript_moves scope (Script.runSource_agree alike statements)) fun _ => .pure _

end

/-- However it ends, a task is a run. -/
theorem perform_run (s : Session) (task : Task) : Run [] s (s.perform task) := by
  cases task with
  | require parent raw => exact (require_moves parent raw s).moved
  | runMain path => exact (execute_moves (requireMain_moves path) true s).moved
  | runScript source => exact (execute_moves (evaluateSource_moves require_alike source) false s).moved

theorem after_run (s : Session) (tasks : List Task) : Run [] s (s.after tasks) := by
  induction tasks generalizing s with
  | nil => exact .refl [] s
  | cons task rest ih => exact (perform_run s task).trans (ih (s.perform task))

end Session

end ModuleSystem
