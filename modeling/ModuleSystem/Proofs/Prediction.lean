import ModuleSystem.Proofs.Agreement

/-! # What a resolution tells of a request

A script can ask for the key that a name is resolved to without loading anything. For a name that is not
that of a builtin, the answer is the key that a request for the name goes to, or the error with which such
a request ends before it gets to the cache. Builtins are not looked at, so the answer does not tell of the
requests that go to them. -/

namespace ModuleSystem.Session

open ModuleSystem.Action (Moves)

/-- What a script is told when it asks where a name leads for a module. -/
abbrev told (parent : Option Nat) (name : String) : SessionAction Value :=
  Script.callFunction (.resolve parent) [.text name]

variable {s : Session} {parent : Option Nat} {name : String}

theorem told_eq (parent : Option Nat) (name : String) (s : Session) :
    told parent name s = (resolve (.text name) parent >>= fun destination =>
      Action.pure (.text destination.key)) s := rfl

/-- Nothing changes for modules when a script is told where a name leads, and no loader loads anything. -/
structure Unmoved (s t : Session) : Prop where
  quiet : Quiet s t
  main : t.rest.main = s.rest.main

theorem told_unmoved (parent : Option Nat) (name : String) (s : Session) :
    Unmoved s (told parent name s).2 := by
  have quiet : Moves Quiet (told parent name) := .bind (resolve_moves _ _) fun _ => .done _
  have main : Moves (InvImage Eq fun s : Session => s.rest.main) (told parent name) :=
    .bind (resolve_moves _ _) fun _ => .done _
  exact ⟨(quiet s).moved, (main s).moved.symm⟩

/-- What a script is told is the key that a request goes to, which then asks the cache for it, or how the
request ends without getting there. -/
structure Predicts (s : Session) (parent : Option Nat) (name : String) : Prop where
  key : ∀ key, (told parent name s).1 = .value (.text key) ↔ target? parent (.text name) s = some key
  reaches : ∀ key inner asMain, (told parent name s).1 = .value (.text key) →
    ∃ number load t, Answered s t [] ∧ dispatch inner asMain parent (.text name) s =
      Cache.getOrLoad hooks key (some number) load t
  error : ∀ raised inner asMain, (told parent name s).1 = .error raised →
    dispatch inner asMain parent (.text name) s = (.error raised, (told parent name s).2)
  interruption : ∀ raised inner asMain, (told parent name s).1 = .interruption raised →
    dispatch inner asMain parent (.text name) s = (.interruption raised, (told parent name s).2)

section

variable (nonempty : name ≠ "") (undefined : s.rest.builtins.get? name = none)

include nonempty undefined

theorem told_key_iff (key : String) :
    (told parent name s).1 = .value (.text key) ↔ target? parent (.text name) s = some key := by
  have absent : s.rest.builtins.contains name = false := by simp [Ordered.contains, undefined]
  simp only [told_eq, target?, if_neg nonempty, absent, Action.bind_apply, Bool.false_eq_true, if_false]
  generalize resolve (.text name) parent s = result
  obtain ⟨outcome, t⟩ := result
  cases outcome with
  | value destination =>
    constructor
    · rintro ⟨⟩
      rfl
    · rintro ⟨⟩
      rfl
  | error raised => exact ⟨by rintro ⟨⟩, by rintro ⟨⟩⟩
  | interruption raised => exact ⟨by rintro ⟨⟩, by rintro ⟨⟩⟩

/-- A request that a script is told no key for ends as the question does. -/
theorem dispatch_eq_told (inner : Script.Requirer) (asMain : Bool)
    (untold : ∀ value, (told parent name s).1 ≠ .value value) :
    dispatch inner asMain parent (.text name) s = told parent name s := by
  have ends : dispatch inner asMain parent (.text name) s = (resolve (.text name) parent >>=
      requireDestination inner asMain parent) s := by
    simp only [dispatch, Action.bind_apply, Action.get, if_neg nonempty, undefined]
  rw [ends, told_eq]
  refine Action.bind_eq_of_unreached (fun destination resolves => untold (.text destination.key) ?_) _
  rw [told_eq, Action.bind_apply]
  generalize resolve (.text name) parent s = result at resolves
  obtain ⟨outcome, t⟩ := result
  cases resolves
  rfl

theorem told_predicts : Predicts s parent name where
  key := told_key_iff nonempty undefined
  reaches key inner asMain same :=
    dispatch_reaches inner asMain ((told_key_iff nonempty undefined key).mp same)
  error raised inner asMain failed :=
    (dispatch_eq_told nonempty undefined inner asMain (by simp [failed])).trans (Prod.ext failed rfl)
  interruption raised inner asMain stopped :=
    (dispatch_eq_told nonempty undefined inner asMain (by simp [stopped])).trans (Prod.ext stopped rfl)

end

/-- Whatever session, module and name there are, a script that asks where the name leads changes nothing
for modules. If the name is not that of a builtin, the script is told how a request for it goes. The request
for a builtin goes to the key with that name, whatever the script is told. -/
theorem resolution_predicts_requests (s : Session) (parent : Option Nat) (name : String)
    (nonempty : name ≠ "") :
    Unmoved s (told parent name s).2 ∧
    (s.rest.builtins.contains name = false → Predicts s parent name) ∧
    (s.rest.builtins.contains name = true → target? parent (.text name) s = some name) := by
  refine ⟨told_unmoved parent name s, fun absent => told_predicts nonempty ?_, fun defined => ?_⟩
  · simpa [Ordered.contains] using absent
  · simp only [target?, if_neg nonempty, defined, if_true]

/-- A request for a builtin is answered although a script is told that nothing serves its name. -/
theorem builtins_are_not_foreseen :
    ∃ s : Session, target? none (.text "store") s = some "store" ∧
      ∃ raised t, told none "store" s = (.error raised, t) ∧
        raised.fault = .noBareLoader (.text "store") := by
  refine ⟨⟨.empty, { World.empty .empty with builtins := .ofList [("store", ⟨[], [], none, .null⟩)] }⟩,
    rfl, ?_⟩
  exact ⟨_, _, rfl, rfl⟩

end ModuleSystem.Session
