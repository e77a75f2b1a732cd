import ModuleSystem.Proofs.Step.Clean
import ModuleSystem.Proofs.Step.Stride

/-! # Strides under watch

Errors that may come up anywhere are those of scripts, of connections and of loaders, and requests that
lead nowhere. The failure of a module comes up in one place only: in the load of its key, because the
source cannot be read or because the code of the module raises an error of another kind. A watch is lawful
if it lets all of these be around from where they come up, and if what may be around stays so. -/

namespace ModuleSystem

open Identifier (canonicalId)
open ModuleSystem.Action (Flow Keeps)

/-- The id that something has failed for, if the error of a loader or of an evaluation tells one. -/
def Fault.failed? : Fault → Option Datum
  | .loaderFailure id _ _ | .evaluationFailure id _ _ => some id
  | _ => none

namespace Session

variable {s t u : Session}

/-- Where a loaded origin is found. -/
abbrev placeOf (protocol : Option String) (loader : Nat) (resolved : String) : Destination :=
  ⟨loader, resolved, canonicalId protocol resolved,
    filenameOf protocol resolved (canonicalId protocol resolved)⟩

/-- The code of a module, which is run in a session where its record has just been attached: its source,
which a loader has given, is evaluated, or its builtin is made. -/
inductive RunsCode (inner : Script.Requirer) (number : Nat) (s : Session) :
    Origin → SessionAction Value → Prop
  | evaluate {protocol : Option String} {loader : Nat} {resolved name : String} {late : Host}
      {source : Datum} (later : s.rest.host.Later late)
      (loads : ((loaderOf s.rest loader).load resolved late).1 = .value source)
      (begun : s.rest.history.head? = some (.work .evaluate (canonicalId protocol resolved) number))
      (named : name = EvaluatorTable.nameOf (canonicalId protocol resolved)
        (some (filenameOf protocol resolved (canonicalId protocol resolved)))) :
      RunsCode inner number s (.loaded protocol loader resolved)
        (evaluateWith inner (s.rest.evaluators.find name) (decodeSource source) name number)
  | make {name : String} {builtin : Builtin} (known : s.rest.builtins.get? name = some builtin)
      (begun : s.rest.history.head? = some (.work .make name number)) :
      RunsCode inner number s (.builtin name) (makeBuiltin inner builtin number)

/-- An error arises for an origin at some moment that has led to a session: its source cannot be read, or
the code of its module, which gets its requests answered in some way, raises an error that is not of the
system. -/
inductive Arises (visits : Session → Prop) (answers : Script.Requirer → Prop) (now : Session) :
    Origin → Raised → Prop
  | unread {protocol : Option String} {loader number : Nat} {resolved : String} {s : Session}
      {raised : Raised} {cause : Fault} (visited : visits s) (leads : Leads s now)
      (begun : s.rest.history.head? = some (.work .fetch (canonicalId protocol resolved) number))
      (fails : (fetchSource (placeOf protocol loader resolved) s).1 = .error raised)
      (foreign : cause.Foreign)
      (wraps : raised.fault = .loaderFailure (.text (canonicalId protocol resolved)) cause true) :
      Arises visits answers now (.loaded protocol loader resolved) raised
  | raises {origin : Origin} {inner : Script.Requirer} {number : Nat} {s : Session}
      {code : SessionAction Value} {thrown raised : Raised} {id : Datum} (visited : visits s)
      (leads : Leads s now) (answered : answers inner) (runs : RunsCode inner number s origin code)
      (fails : (code s).1 = .error thrown) (foreign : thrown.fault.Foreign)
      (wraps : raised.fault = .evaluationFailure id thrown.fault true) :
      Arises visits answers now origin raised

theorem Arises.later {visits : Session → Prop} {answers : Script.Requirer → Prop} {now : Session}
    {origin : Origin} {raised : Raised} (arises : Arises visits answers now origin raised)
    (onward : Leads now t) : Arises visits answers t origin raised := by
  cases arises with
  | unread visited leads begun fails foreign wraps =>
    exact .unread visited (Flow.trans leads onward) begun fails foreign wraps
  | raises visited leads answered runs fails foreign wraps =>
    exact .raises visited (Flow.trans leads onward) answered runs fails foreign wraps

namespace SmallStep

variable {around : Session → Raised → Prop}

/-- A key that is pending has been so before, or its load has just started with the newest record. -/
theorem pending_cases (step : SmallStep around s t) {key : String} {part : Option Nat}
    (known : t.cache.get? key = some (.pending part)) :
    s.cache.get? key = some (.pending part) ∨
      s.cache.get? key = none ∧ ∃ number, part = some number ∧ Fresh s.rest key number ∧
        t.rest.history = .cache (.load key part) :: s.rest.history := by
  cases step with
  | @start origin number _ absent fresh =>
    rw [Cache.get?_start] at known
    split at known
    · rename_i same
      subst same
      cases known
      exact .inr ⟨absent, number, rfl, fresh, (notes_start ..).history⟩
    · exact .inl known
  | @settle origin number outcome =>
    rw [Cache.get?_settle] at known
    split at known
    · cases outcome <;> cases known
    · exact .inl known
  | _ => exact .inl known

end SmallStep

namespace Stride

variable {around : Session → Raised → Prop}

/-- A key that has failed has done so before, or its error may be around and is one of the system. -/
theorem failed_cases (stride : Stride around s t) {key : String} {error : Raised}
    (known : t.cache.get? key = some (.failed error)) :
    s.cache.get? key = some (.failed error) ∨ around t error ∧ error.fault.isRequireError = true := by
  cases stride with
  | plain plain =>
    rcases plain.small.entry known with before | ⟨_, pending⟩ | ⟨outcome, meets, own, left⟩
    · exact .inl before
    · cases pending
    · cases outcome <;> cases left
      exact .inr ⟨meets, own _ rfl⟩
  | complete =>
    rw [Cache.get?_settle] at known
    split at known
    · cases known
    · exact .inl known

theorem pending_cases (stride : Stride around s t) {key : String} {part : Option Nat}
    (known : t.cache.get? key = some (.pending part)) :
    s.cache.get? key = some (.pending part) ∨
      ∃ number, part = some number ∧ Fresh s.rest key number ∧
        (∃ exports, s.rest.history.head? = some (.create exports)) ∧
        t.rest.history = .cache (.load key part) :: s.rest.history := by
  cases stride with
  | plain plain =>
    rcases plain.small.pending_cases known with before | ⟨absent, number, rfl, fresh, told⟩
    · exact .inl before
    · exact .inr ⟨number, rfl, fresh, plain.started key number absent known, told⟩
  | complete =>
    rw [Cache.get?_settle] at known
    split at known
    · cases known
    · exact .inl known

end Stride

end Session

namespace Watch

open Session (SmallStep Stride Unrenamed Arises Complete)
open Value (Reference)

variable {w : Watch} {s t u : Session}

/-- A stride under watch. A new record has a parent that may be kept, and nothing is brought in but what
may be kept before the stride. -/
structure Step (w : Watch) (s t : Session) : Prop where
  stride : Stride w.around s t
  parented : ∀ parent, (t.rest.record s.rest.records.size).parent = some parent →
    w.near s (.record parent)
  holds : ∀ Q : Reference → Prop, (∀ reference, w.near s reference → Q reference) →
    s.rest.Within Q → t.rest.Within Q

/-- A session later on, after some strides under watch, with all entries that it had. The record of a
pending key is still attached. -/
structure Moved (w : Watch) (s t : Session) : Prop where
  steps : Relation.ReflTransGen w.Step s t
  kept : ∀ key entry, s.cache.get? key = some entry → t.cache.get? key = some entry
  attached : ∀ key number, s.cache.get? key = some (.pending (some number)) →
    s.rest.modules.get? key = some number → t.rest.modules.get? key = some number

/-- Errors that may come up anywhere: those that are not of the system, those that the surroundings raise,
those that come up when a loader resolves an id, and requests that lead nowhere. -/
inductive Admits (w : Watch) : Fault → Prop
  | foreign {fault : Fault} (foreign : fault.Foreign) : Admits w fault
  | outside {fault : Fault} (outside : w.outside fault) : Admits w fault
  | unresolved {fault : Fault} (unresolved : w.unresolved fault) : Admits w fault
  | resolving {id : Datum} {cause : Fault} (unresolved : w.unresolved cause)
      (foreign : cause.Foreign) : Admits w (.loaderFailure id cause true)
  | unsupportedProtocol (protocol : Datum) : Admits w (.unsupportedProtocol protocol)
  | noBareLoader (id : Datum) : Admits w (.noBareLoader id)

/-- An error is the failure of an origin: it arises in the load of the origin, and tells its key unless
records have been given other ids. -/
structure Breaks (w : Watch) (s : Session) (origin : Origin) (raised : Raised) : Prop where
  arises : Arises w.visits w.answers s origin raised
  named : Unrenamed s.rest.history → raised.fault.failed? = some (.text origin.key)

/-- What comes up may be around. Failures may be around as soon as the cache knows of them, and whatever
may be around may still be so after a step. -/
class Lawful (w : Watch) : Prop where
  grows {s t : Session} {raised : Raised} (step : SmallStep w.around s t) :
    w.around s raised → w.around t raised
  goesOn {s t : Session} (step : w.Step s t) : w.visits s → w.visits t
  broad : Fault.Broad w.outside
  admits {s : Session} {raised : Raised} (admits : w.Admits raised.fault) : w.around s raised
  makes {s : Session} {fault : Fault} {cause : Option Raised} (made : fault.Made cause)
    (holds : ∀ raised, cause = some raised → w.around s raised) :
    w.around ⟨s.cache, s.rest.makeError fault cause⟩ ⟨s.rest.heap.marks, fault⟩
  causes {s : Session} {raised : Raised} {cause : Fault} (serial : Nat) (around : w.around s raised)
    (caused : raised.fault.cause? = some cause)
    (unlinked : s.rest.heap.causes.lookup raised.serial = none) : w.around s ⟨serial, cause⟩
  settles {s : Session} {origin : Origin} {number : Nat} {outcome : Outcome Raised Value}
    {raised : Raised} (pending : s.cache.get? origin.key = some (.pending (some number)))
    (step : Session.Step (fun _ => True) s (Cache.settle Session.hooks origin.key (outcome, s)).2)
    (whence : w.around s raised ∨ outcome = .error raised ∧ w.Breaks s origin raised) :
    w.around (Cache.settle Session.hooks origin.key (outcome, s)).2 raised

instance : Flow w.Moved where
  refl _ := ⟨.refl, fun _ _ known => known, fun _ _ _ attached => attached⟩
  trans early late :=
    ⟨early.steps.trans late.steps, fun key entry known => late.kept key entry (early.kept key entry known),
      fun key number pending attached => late.attached key number (early.kept _ _ pending)
        (early.attached key number pending attached)⟩

theorem Step.small (step : w.Step s t) : Session.SmallSteps w.around s t := step.stride.smallSteps

/-- A step that leaves all entries. -/
theorem Moved.of_step (step : w.Step s t)
    (kept : ∀ key entry, s.cache.get? key = some entry → t.cache.get? key = some entry)
    (attached : ∀ key number, s.cache.get? key = some (.pending (some number)) →
      s.rest.modules.get? key = some number → t.rest.modules.get? key = some number) : w.Moved s t :=
  ⟨.single step, kept, attached⟩

theorem Moved.small (moved : w.Moved s t) : Session.SmallSteps w.around s t := by
  have steps := moved.steps
  clear moved
  induction steps with
  | refl => exact .refl
  | tail _ step ih => exact ih.trans step.small

theorem Moved.later (moved : w.Moved s t) : s.rest.Later t.rest := moved.small.later

theorem Moved.leads (moved : w.Moved s t) : Session.Leads s t :=
  Relation.ReflTransGen.mono (fun _ _ => .inl) _ _ (moved.small.mono fun _ _ _ => trivial)

theorem Moved.suffix (moved : w.Moved s t) : s.rest.history <:+ t.rest.history := moved.small.suffix

theorem Moved.size_le (moved : w.Moved s t) : s.rest.records.size ≤ t.rest.records.size :=
  moved.small.size_le

section

variable [w.Lawful]

theorem around_of_small (steps : Session.SmallSteps w.around s t) {raised : Raised}
    (around : w.around s raised) : w.around t raised := by
  induction steps with
  | refl => exact around
  | tail _ step ih => exact Lawful.grows step ih

theorem near_of_small (steps : Session.SmallSteps w.around s t) {reference : Reference}
    (near : w.near s reference) : w.near t reference := by
  cases reference with
  | error raised => exact around_of_small steps near
  | record number => exact fun tracks => (near tracks).trans_le steps.size_le

/-- A stride leaves a session clean. -/
theorem Step.clean (step : w.Step s t) (clean : w.Clean s) : w.Clean t where
  visited := Lawful.goesOn step clean.visited
  holds := step.holds _ (fun _ => near_of_small step.small)
    (clean.holds.mono fun _ => near_of_small step.small)
  raises := step.small.later.raises clean.raises (step.small.raises clean.raises.host)
  resolves number := by
    rw [step.small.later.loaderOf]
    exact clean.resolves number
  values key value known := by
    rcases step.stride.resolved known with before | ⟨number, _, complete⟩
    · exact (clean.values key value before).mono fun _ => near_of_small step.small
    · have kept := step.holds _ (fun _ => near_of_small step.small)
        (clean.holds.mono fun _ => near_of_small step.small)
      rw [← complete.exports]
      exact (kept.records number).exports
  errors key error known := by
    rcases step.stride.failed_cases known with before | new
    · obtain ⟨around, own⟩ := clean.errors key error before
      exact ⟨around_of_small step.small around, own⟩
    · exact new
  parts key partless := by
    rcases step.stride.pending_cases partless with before | ⟨number, same, _⟩
    · exact clean.parts key before
    · cases same
  pending key number pending := by
    rcases step.stride.pending_cases pending with before | ⟨_, same, fresh, _⟩
    · exact near_of_small step.small (clean.pending key number before)
    · cases same
      have there : number < s.rest.records.size := fresh.newest ▸ Nat.lt_succ_self number
      exact fun _ => there.trans_le step.small.size_le

/-- A small step leaves a session clean, too, if it is not tracked that records have been made. -/
theorem clean_of_small (step : SmallStep w.around s t) (untracked : ¬ w.tracks) (visited : w.visits t)
    (clean : w.Clean s) : w.Clean t where
  visited
  holds := step.within (fun _ => Lawful.grows step) (fun _ tracks => absurd tracks untracked)
    (clean.holds.mono fun _ => near_of_small (.single step))
  raises := step.later.raises clean.raises (step.raises clean.raises.host)
  resolves number := by
    rw [step.later.loaderOf]
    exact clean.resolves number
  values key value known := by
    rcases step.entry known with before | ⟨_, pending⟩ | ⟨outcome, meets, _, left⟩
    · exact (clean.values key value before).mono fun _ => near_of_small (.single step)
    · cases pending
    · cases outcome <;> cases left
      exact Value.Only.within (Value.Only.mono meets fun _ => Lawful.grows step) fun _ tracks =>
        absurd tracks untracked
  errors key error known := by
    rcases step.entry known with before | ⟨_, pending⟩ | ⟨outcome, meets, own, left⟩
    · exact (clean.errors key error before).imp_left (Lawful.grows step)
    · cases pending
    · cases outcome <;> cases left
      exact ⟨meets, own _ rfl⟩
  parts key partless := by
    rcases step.entry partless with before | ⟨_, pending⟩ | ⟨outcome, _, _, left⟩
    · exact clean.parts key before
    · cases pending
    · cases outcome <;> cases left
  pending _ _ _ tracks := absurd tracks untracked

theorem clean_of_steps (steps : Session.SmallSteps w.around s t) (untracked : ¬ w.tracks)
    (visited : ∀ s, w.visits s) (clean : w.Clean s) : w.Clean t := by
  induction steps with
  | refl => exact clean
  | tail _ step ih => exact clean_of_small step untracked (visited _) ih

theorem Moved.around (moved : w.Moved s t) {raised : Raised} (around : w.around s raised) :
    w.around t raised := around_of_small moved.small around

theorem Moved.near (moved : w.Moved s t) {reference : Reference} (near : w.near s reference) :
    w.near t reference := near_of_small moved.small near

theorem Moved.within (moved : w.Moved s t) {value : Value} (within : value.Within (w.near s)) :
    value.Within (w.near t) := within.mono fun _ => moved.near

theorem Moved.clean (moved : w.Moved s t) (clean : w.Clean s) : w.Clean t := by
  have steps := moved.steps
  clear moved
  induction steps with
  | refl => exact clean
  | tail _ step ih => exact step.clean ih

instance : Keeps w.Clean w.Moved where
  keeps := Moved.clean

end

end Watch

/-- Everything may be around everywhere. -/
def Watch.everything : Watch where
  visits _ := True
  around _ _ := True
  outside _ := True
  unresolved _ := True
  answers _ := True
  tracks := False

theorem Watch.near_everything (s : Session) (reference : Value.Reference) :
    Watch.everything.near s reference := by
  cases reference with
  | error raised => exact trivial
  | record number => exact False.elim

instance : Watch.everything.Lawful where
  grows _ _ := trivial
  goesOn _ visited := visited
  broad := ⟨fun _ => trivial⟩
  admits _ := trivial
  makes _ _ := trivial
  causes _ _ _ _ := trivial
  settles _ _ _ := trivial

end ModuleSystem
