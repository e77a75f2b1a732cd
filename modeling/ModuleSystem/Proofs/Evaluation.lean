import ModuleSystem.Proofs.Request
import ModuleSystem.Proofs.Task
import ModuleSystem.Proofs.Trace.Entry
import ModuleSystem.Proofs.Trace.Run

/-! # Single evaluation

A key is loaded once. From then on it stands for one value or one error, whoever asks for it and however
often, and nothing is done for it any more. Only a load that an error interrupts, instead of failing it,
can be begun again. -/

namespace ModuleSystem.Session

variable {s t : Session} {key : String}

/-- What a history that begins with a session says of its keys. The moments of the history are the
snapshots that its earlier parts lead to. -/
structure EvaluatesOnce (s : Session) (events : List Happening) : Prop where
  /-- From one moment to the next the entry of every key takes one of the turns. -/
  turns : ∀ later happening earlier key, events = later ++ happening :: earlier →
    Snapshot.Turn key happening (((s.snapshot []).replay earlier).cache.get? key)
      (((s.snapshot []).replay (happening :: earlier)).cache.get? key)
  /-- A settled entry is there at every later moment, and nothing more is done for its key. -/
  settled : ∀ last later earlier key entry, events = last ++ later ++ earlier →
    entry.state ≠ .pending → ((s.snapshot []).replay earlier).cache.get? key = some entry →
    ((s.snapshot []).replay (later ++ earlier)).cache.get? key = some entry ∧
      key ∉ started later ∧ key ∉ worked later
  /-- Work is done only for a key whose load is going on. -/
  loading : ∀ later earlier work key number, events = later ++ .work work key number :: earlier →
    ((s.snapshot []).replay earlier).Loads key number
  /-- What interrupts a load are the errors that no program handles. -/
  interrupts : ∀ key error, .cache (.interrupt key error) ∈ events → error.fault.isInterruption = true
  /-- They never fail a load, unless they are the error of a key in the beginning. -/
  fails : (s.snapshot []).Ordinary →
    ∀ key error, .cache (.fail key error) ∈ events → error.fault.isInterruption = false
  /-- A key is loaded once, and once more for every interruption. -/
  starts : ∀ key, (started events).count key ≤ 1 + (cutShort events).count key

theorem Tells.evaluatesOnce {events : List Happening} (tells : Tells [] s t events) :
    EvaluatesOnce s events where
  turns := by
    rintro later happening earlier key rfl
    exact tells.lawful.allowed.turn key
  settled := by
    rintro last later earlier key entry rfl unpending known
    rw [List.append_assoc] at tells
    have lawful := tells.lawful.of_append.1.of_append.2
    obtain ⟨still, unstarted, _, unworked⟩ := lawful.keeps_settled known unpending
    rw [Snapshot.replay_append]
    exact ⟨still, unstarted, unworked⟩
  loading := by
    rintro later earlier work key number rfl
    exact tells.lawful.allowed
  interrupts key error member := by
    obtain ⟨later, earlier, rfl⟩ := List.append_of_mem member
    exact tells.lawful.allowed.2
  fails ordinary key error member := by
    obtain ⟨later, earlier, rfl⟩ := List.append_of_mem member
    exact tells.lawful.allowed.ordinary (tells.lawful.of_append.1.1.ordinary ordinary)
  starts key := by
    have balance := tells.lawful.count_started key
    have most : ((Snapshot.replay (s.snapshot []) events).cache.contains key).toNat ≤ 1 :=
      Bool.toNat_le _
    omega

/-- An action has an outcome without any work. -/
def Gives (action : SessionAction Value) (s : Session) (outcome : Outcome Raised Value)
    (told : List Happening) : Prop := ∃ t, Answered s t told ∧ action s = (outcome, t)

/-- Over any tasks every key is evaluated once, unless its load is interrupted. In any session a request of
a module or for the main module that goes to a settled key gives its value or raises its error, and no
work is done for it. -/
theorem evaluates_once :
    (∀ s tasks, ∃ events, Tells [] s (s.after tasks) events ∧ EvaluatesOnce s events) ∧
    (∀ s key value, s.cache.get? key = some (.resolved value) →
      (∀ parent raw, target? parent raw s = some key →
        Gives (require parent raw) s (.value value) [.cache (.hit key)]) ∧
      ∀ path, target? none (.text (Path.absolute s.rest.host.files.workingDirectory path)) s =
        some key → Gives (requireMain path) s (.value value) [.cache (.hit key)]) ∧
    ∀ s key error, s.cache.get? key = some (.failed error) →
      (∀ parent raw, target? parent raw s = some key →
        Gives (require parent raw) s (.error error) [.cache (.failureHit key)]) ∧
      ∀ path, target? none (.text (Path.absolute s.rest.host.files.workingDirectory path)) s =
        some key → Gives (requireMain path) s (.error error) [.cache (.failureHit key)] := by
  refine ⟨fun s tasks => ?_, fun s key value known => ⟨?_, ?_⟩, fun s key error known => ⟨?_, ?_⟩⟩
  · obtain ⟨events, tells⟩ := (after_run s tasks).tells
    exact ⟨events, tells, tells.evaluatesOnce⟩
  · intro parent raw target
    rw [require_eq_dispatch]
    exact dispatch_of_resolved require false target known
  · intro path target
    unfold Gives
    rw [requireMain_eq_dispatch]
    exact dispatch_of_resolved require true target known
  · intro parent raw target
    rw [require_eq_dispatch]
    exact dispatch_of_failed require false target known
  · intro path target
    unfold Gives
    rw [requireMain_eq_dispatch]
    exact dispatch_of_failed require true target known

/-- A session with one builtin, which raises an error that closes a generator. -/
def closing : Session :=
  ⟨.empty, { World.empty .empty with
    builtins := .ofList [("close", ⟨[], [], some (.named "GeneratorExit" []), .null⟩)] }⟩

/-- A load need not be interrupted by a user or by the end of the program: this one is interrupted by an
error of another kind, which makes its key absent again, and the builtin is made once more. -/
theorem generatorExit_interrupts :
    (∃ error t, require none (.text "close") closing = (.interruption error, t) ∧
      error.fault.kind = "GeneratorExit" ∧ t.cache.get? "close" = none) ∧
    worked (closing.after (List.replicate 2 (.require none (.text "close")))).rest.history =
      ["close", "close"] := by
  refine ⟨⟨⟨0, .named "GeneratorExit" []⟩, (require none (.text "close") closing).2, ?_, ?_, ?_⟩, ?_⟩
  · rfl
  · rfl
  · rfl
  · rfl

end ModuleSystem.Session
