import Mathlib.Logic.Relation
import ModuleSystem.Proofs.Pending

/-! # Loading with and without a memory

A program says how the value of a key is found: it asks for other keys, one after the other, and goes on
with what it gets, until it has a value, fails or is interrupted. Programs that ask only for keys which
come before theirs in a well-founded order can be run in two ways: through a cache, where every key is
loaded once, and directly, where every request runs the program of its key again. Both have the same
outcome, whatever has been asked of the cache before. -/

namespace ModuleSystem.Cache

open Relation (ReflTransGen)

/-- What finds the value of a key. A request names a key that may be asked for and what stands for its
unfinished value; the program goes on with the value or with the error that it gets. -/
inductive Program (π α ε : Type) (allowed : String → Prop) where
  | value (a : α)
  | error (e : ε)
  | interruption (e : ε)
  | request (key : String) (lower : allowed key) (part : Option π)
      (next : Except ε α → Program π α ε allowed)

/-- A program for every key, which asks only for keys that come before its own. -/
structure Programs (π α ε : Type) where
  before : String → String → Prop
  wellFounded : WellFounded before
  program : (key : String) → Program π α ε (before · key)

variable {π α ε ρ : Type} {allowed : String → Prop}

theorem left?_eq_resolved {outcome : Outcome ε α} {value : α}
    (left : left? (π := π) outcome = some (.resolved value)) : outcome = .value value := by
  cases outcome <;> cases left
  rfl

theorem left?_eq_failed {outcome : Outcome ε α} {error : ε}
    (left : left? (π := π) outcome = some (.failed error)) : outcome = .error error := by
  cases outcome <;> cases left
  rfl

namespace Program

/-- Runs a program whose requests are answered by an action. An interruption ends it. -/
def run (ask : (key : String) → allowed key → Option π → Action (Held π α ε ρ) ε α) :
    Program π α ε allowed → Action (Held π α ε ρ) ε α
  | .value a => Action.pure a
  | .error e => Action.fail e
  | .interruption e => Action.interrupt e
  | .request key lower part next => do
    match ← Action.attempt (ask key lower part) with
    | .value a => run ask (next (.ok a))
    | .error e => run ask (next (.error e))
    | .interruption e => Action.interrupt e

/-- The outcome of a program whose requests have known outcomes. -/
def outcome (answer : (key : String) → allowed key → Outcome ε α) :
    Program π α ε allowed → Outcome ε α
  | .value a => .value a
  | .error e => .error e
  | .interruption e => .interruption e
  | .request key lower _ next =>
    match answer key lower with
    | .value a => outcome answer (next (.ok a))
    | .error e => outcome answer (next (.error e))
    | .interruption e => .interruption e

/-- A program goes on where a request for a key has ended. -/
theorem run_request (ask : (key : String) → allowed key → Option π → Action (Held π α ε ρ) ε α)
    (key : String) (lower : allowed key) (part : Option π) (next : Except ε α → Program π α ε allowed)
    (held : Held π α ε ρ) :
    (request key lower part next).run ask held =
      match ask key lower part held with
      | (.value a, later) => (next (.ok a)).run ask later
      | (.error e, later) => (next (.error e)).run ask later
      | (.interruption e, later) => (.interruption e, later) := by
  rw [run, Action.bind_apply, Action.attempt]
  rcases ask key lower part held with ⟨_ | _ | _, _⟩ <;> rfl

end Program

namespace Programs

variable (programs : Programs π α ε) (hooks : Hooks π α ε ρ)

/-- The load of a key: its program, whose requests go through the cache. -/
def load (key : String) : Action (Held π α ε ρ) ε α :=
  (programs.program key).run fun other _ part => getOrLoad hooks other part (load other)
termination_by programs.wellFounded.wrap key
decreasing_by assumption

/-- A request for a key through the cache. -/
def request (key : String) (part : Option π) : Action (Held π α ε ρ) ε α :=
  getOrLoad hooks key part (programs.load hooks key)

/-- The state after some requests in order, however they end. -/
def after (requests : List (String × Option π)) (held : Held π α ε ρ) : Held π α ε ρ :=
  requests.foldl (fun held asked => (programs.request hooks asked.1 asked.2 held).2) held

/-- The outcome of a key without a cache: each request runs the program of its key. -/
def direct (key : String) : Outcome ε α :=
  (programs.program key).outcome fun other _ => direct other
termination_by programs.wellFounded.wrap key
decreasing_by assumption

theorem load_eq (key : String) : programs.load hooks key =
    (programs.program key).run fun other _ part => programs.request hooks other part := by
  rw [load]
  rfl

theorem direct_eq (key : String) : programs.direct key =
    (programs.program key).outcome fun other _ => programs.direct other := by
  rw [direct]

/-- Whatever is settled in a cache is what running its program leaves. -/
def Faithful (cache : Cache π α ε) : Prop :=
  ∀ key entry, cache.get? key = some entry → entry.state ≠ .pending →
    left? (programs.direct key) = some entry

/-- No key that a request for this one can lead to is being loaded. -/
def Open (cache : Cache π α ε) (key : String) : Prop :=
  ∀ other, ReflTransGen programs.before other key → ∀ part, cache.get? other ≠ some (.pending part)

/-- An action has the outcome, keeps the cache and leaves it faithful. -/
structure Answers (action : Action (Held π α ε ρ) ε α) (outcome : Outcome ε α)
    (held : Held π α ε ρ) : Prop where
  same : (action held).1 = outcome
  frame : Frame held.cache (action held).2.cache
  faithful : programs.Faithful (action held).2.cache

variable {programs hooks} {held : Held π α ε ρ} {cache : Cache π α ε} {key : String}

theorem Open.of_frame {later : Cache π α ε} (isOpen : programs.Open cache key)
    (frame : Frame cache later) : programs.Open later key := by
  intro other leads part pending
  exact isOpen other leads part ((frame.pending other part).mp pending)

theorem Open.lower {other : String} (isOpen : programs.Open cache key)
    (lower : programs.before other key) : programs.Open cache other :=
  fun _ leads => isOpen _ (leads.tail lower)

/-- Once its load has begun, only the key itself has become pending, to which nothing below it leads. -/
theorem Open.start {other : String} (isOpen : programs.Open held.cache key) (part : Option π)
    (lower : programs.before other key) : programs.Open (start hooks key part held).cache other := by
  intro reached leads part pending
  have below : Relation.TransGen programs.before reached key := .tail' leads lower
  have different : reached ≠ key := by
    rintro rfl
    exact programs.wellFounded.transGen.irrefl.irrefl reached below
  rw [get?_start, if_neg different] at pending
  exact isOpen reached below.to_reflTransGen part pending

theorem Faithful.start (faithful : programs.Faithful held.cache) (part : Option π) :
    programs.Faithful (start hooks key part held).cache := by
  intro other entry known settled
  rw [get?_start] at known
  split at known
  · cases known
    exact absurd rfl settled
  · exact faithful other entry known settled

/-- A load that has the outcome of its program is remembered with it. -/
theorem Faithful.settle {outcome : Outcome ε α} (faithful : programs.Faithful held.cache)
    (same : outcome = programs.direct key) :
    programs.Faithful (settle hooks key (outcome, held)).2.cache := by
  intro other entry known settled
  rw [get?_settle] at known
  split at known
  · rename_i here
    rw [here, ← same, known]
  · exact faithful other entry known settled

/-- What an action comes down to later on answers for it. -/
theorem Answers.later {action next : Action (Held π α ε ρ) ε α} {outcome : Outcome ε α}
    {later : Held π α ε ρ} (frame : Frame held.cache later.cache) (leads : action held = next later)
    (answers : programs.Answers next outcome later) : programs.Answers action outcome held := by
  obtain ⟨same, onward, faithful⟩ := answers
  rw [← leads] at same onward faithful
  exact ⟨same, frame.trans onward, faithful⟩

/-- If requests for the keys that a program may ask for are answered by their outcomes, the program has
its outcome. -/
theorem run_answers (ask : (key : String) → allowed key → Option π → Action (Held π α ε ρ) ε α)
    (answer : (key : String) → allowed key → Outcome ε α)
    (answered : ∀ key lower part held, programs.Faithful held.cache → programs.Open held.cache key →
      programs.Answers (ask key lower part) (answer key lower) held)
    (program : Program π α ε allowed) (faithful : programs.Faithful held.cache)
    (isOpen : ∀ key, allowed key → programs.Open held.cache key) :
    programs.Answers (program.run ask) (program.outcome answer) held := by
  induction program generalizing held with
  | value a => exact ⟨rfl, .refl _, faithful⟩
  | error e => exact ⟨rfl, .refl _, faithful⟩
  | interruption e => exact ⟨rfl, .refl _, faithful⟩
  | request key lower part next ih =>
    obtain ⟨same, frame, onward⟩ := answered key lower part held faithful (isOpen key lower)
    have goesOn := Program.run_request ask key lower part next held
    rw [Program.outcome, ← same]
    cases ran : ask key lower part held with
    | mk ended later =>
      rw [ran] at frame onward goesOn
      have still (other : String) (may : allowed other) : programs.Open later.cache other :=
        (isOpen other may).of_frame frame
      cases ended with
      | value a => exact (ih (.ok a) onward still).later frame goesOn
      | error e => exact (ih (.error e) onward still).later frame goesOn
      | interruption e =>
        have stops : programs.Answers (Action.interrupt e) (.interruption e) later :=
          ⟨rfl, .refl _, onward⟩
        exact stops.later frame goesOn

/-- An outcome that is already known, with the cache as it is. -/
theorem Answers.of_ran {action : Action (Held π α ε ρ) ε α} {outcome : Outcome ε α}
    {later : Held π α ε ρ} (ran : action held = (outcome, later)) (same : later.cache = held.cache)
    (faithful : programs.Faithful held.cache) : programs.Answers action outcome held := by
  have known : programs.Answers (Action.ofOutcome outcome) outcome later := by
    refine ⟨rfl, .refl _, ?_⟩
    rw [Action.ofOutcome, same]
    exact faithful
  exact known.later (same ▸ .refl _) ran

/-- A request for a key without an entry loads it. Its requests are for keys below it, which are as open
as before, since only the key itself has become pending. -/
theorem load_answers {part : Option π} (faithful : programs.Faithful held.cache)
    (isOpen : programs.Open held.cache key) (absent : held.cache.get? key = none)
    (lower : ∀ other, programs.before other key → ∀ part held, programs.Faithful held.cache →
      programs.Open held.cache other →
      programs.Answers (programs.request hooks other part) (programs.direct other) held) :
    programs.Answers (programs.request hooks key part) (programs.direct key) held := by
  have body : programs.Answers (programs.load hooks key) (programs.direct key)
      (Cache.start hooks key part held) := by
    rw [load_eq, direct_eq]
    exact run_answers _ _ (fun other below part held => lower other below part held) _
      (faithful.start part) fun other below => isOpen.start part below
  have ran := getOrLoad_of_absent hooks part (programs.load hooks key) absent
  obtain ⟨same, frame, known⟩ := body
  cases ended : programs.load hooks key (Cache.start hooks key part held) with
  | mk outcome inner =>
    rw [ended] at same frame known ran
    refine ⟨?_, ?_, ?_⟩ <;> rw [request, ran]
    · exact (settle_fst ..).trans same
    · exact settle_frame hooks outcome inner absent frame
    · exact known.settle same

/-- A request is answered by the outcome of its key: from the cache if the key is settled, which it is
faithfully, and by a load otherwise. The induction is along the order of the keys. -/
theorem request_answers (key : String) (part : Option π) (held : Held π α ε ρ)
    (faithful : programs.Faithful held.cache) (isOpen : programs.Open held.cache key) :
    programs.Answers (programs.request hooks key part) (programs.direct key) held := by
  induction key using programs.wellFounded.induction generalizing part held with
  | _ key ih =>
    cases known : held.cache.get? key with
    | none => exact load_answers faithful isOpen known ih
    | some entry =>
      have remembered (settled : entry.state ≠ .pending) : left? (programs.direct key) = some entry :=
        faithful key entry known settled
      cases entry with
      | pending part => exact absurd known (isOpen key .refl part)
      | resolved value =>
        rw [left?_eq_resolved (remembered nofun)]
        exact .of_ran (getOrLoad_of_resolved hooks part _ known) rfl faithful
      | failed error =>
        rw [left?_eq_failed (remembered nofun)]
        exact .of_ran (getOrLoad_of_failed hooks part _ known) rfl faithful

theorem after_faithful (requests : List (String × Option π)) (faithful : programs.Faithful held.cache)
    (idle : ∀ key part, held.cache.get? key ≠ some (.pending part)) :
    programs.Faithful (programs.after hooks requests held).cache ∧
      ∀ key part, (programs.after hooks requests held).cache.get? key ≠ some (.pending part) := by
  induction requests generalizing held with
  | nil => exact ⟨faithful, idle⟩
  | cons asked rest ih =>
    have answers : programs.Answers (programs.request hooks asked.1 asked.2) (programs.direct asked.1)
        held := request_answers asked.1 asked.2 held faithful fun other _ => idle other
    obtain ⟨_, frame, onward⟩ := answers
    exact ih onward fun key part pending => idle key part ((frame.pending key part).mp pending)

/-- Memoised loading agrees with direct loading. On a cache that is empty in the beginning, and whatever
has been requested before, in any order and any number of times, a request for a key has the outcome of
running its program with every request run anew. So the outcome does not depend on what was requested
before. -/
theorem memoised_agrees_with_direct (programs : Programs π α ε) (hooks : Hooks π α ε ρ) (rest : ρ)
    (earlier : List (String × Option π)) (key : String) (part : Option π) :
    (programs.request hooks key part (programs.after hooks earlier ⟨.empty, rest⟩)).1 =
        programs.direct key ∧
      ∀ others otherPart,
        (programs.request hooks key otherPart (programs.after hooks others ⟨.empty, rest⟩)).1 =
          (programs.request hooks key part (programs.after hooks earlier ⟨.empty, rest⟩)).1 := by
  have agrees (requests : List (String × Option π)) (part : Option π) :
      (programs.request hooks key part (programs.after hooks requests ⟨.empty, rest⟩)).1 =
        programs.direct key := by
    have start : programs.Faithful (Cache.Held.mk .empty rest : Held π α ε ρ).cache :=
      fun _ _ known => by cases known
    obtain ⟨faithful, idle⟩ : programs.Faithful (programs.after hooks requests ⟨.empty, rest⟩).cache ∧
        ∀ key part,
          (programs.after hooks requests ⟨.empty, rest⟩).cache.get? key ≠ some (.pending part) :=
      after_faithful requests start fun _ _ known => by cases known
    exact (request_answers key part _ faithful fun other _ => idle other).same
  exact ⟨agrees earlier part, fun others otherPart =>
    (agrees others otherPart).trans (agrees earlier part).symm⟩

/-! ## A family of programs -/

/-- How far up a key stands: above what its program asks for. -/
def heightOf : String → Nat
  | "careful" => 1
  | "main" => 2
  | _ => 0

/-- A program that fails, one that handles this, one that is interrupted, and one that asks for both of the
latter. -/
def recoveringProgram : (key : String) → Program Nat Nat String fun other => heightOf other < heightOf key
  | "broken" => .error "no source"
  | "stopped" => .interruption "end"
  | "careful" => .request "broken" (by decide) none fun
    | .ok value => .value value
    | .error _ => .value 1
  | "main" => .request "careful" (by decide) none fun
    | .ok value => .request "stopped" (by decide) none fun _ => .value value
    | .error error => .error error
  | _ => .value 0

def recovering : Programs Nat Nat String where
  before one other := heightOf one < heightOf other
  wellFounded := (measure heightOf).wf
  program := recoveringProgram

/-- Nothing is noted, and a part is its value. -/
def silent : Hooks Nat Nat String Unit where
  note _ rest := rest
  readPart part := Action.pure part
  noPart key := Action.fail key

/-- The failure is handled and the interruption gets through, whatever has been requested before. -/
theorem recovering_outcomes :
    (recovering.request silent "careful" none (recovering.after silent
      [("main", none), ("broken", none), ("main", none)] ⟨.empty, ()⟩)).1 = .value 1 ∧
    (recovering.request silent "main" none (recovering.after silent
      [("careful", none), ("main", none)] ⟨.empty, ()⟩)).1 = .interruption "end" := by
  have direct (key : String) : recovering.direct key =
      (recoveringProgram key).outcome fun other _ => recovering.direct other := direct_eq recovering key
  have broken : recovering.direct "broken" = .error "no source" := direct "broken"
  have stopped : recovering.direct "stopped" = .interruption "end" := direct "stopped"
  have careful : recovering.direct "careful" = .value 1 := by
    rw [direct]
    simp only [recoveringProgram, Program.outcome, broken]
  have main : recovering.direct "main" = .interruption "end" := by
    rw [direct]
    simp only [recoveringProgram, Program.outcome, careful, stopped]
  exact ⟨(memoised_agrees_with_direct recovering silent () _ "careful" none).1.trans careful,
    (memoised_agrees_with_direct recovering silent () _ "main" none).1.trans main⟩

end Programs

end ModuleSystem.Cache
