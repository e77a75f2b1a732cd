import ModuleSystem.Proofs.Step.Require

/-! # Where a session can get

Connections, loaders and builtins raise errors of their own, and may make up some that pretend to be errors
of the system of modules itself, as scripts may. Wherever a session can get, all other errors of the system
that are found in it are those that the system has raised: requests that lead nowhere, and failures that
keep the error that caused them, which is never an error of the system. -/

namespace ModuleSystem

namespace Fault

/-- What the system raises: a request leads nowhere, or a loader or an evaluation fails because of an
error of another kind. -/
inductive IsFailure : Fault → Prop
  | unsupportedProtocol (protocol : Datum) : IsFailure (.unsupportedProtocol protocol)
  | noBareLoader (id : Datum) : IsFailure (.noBareLoader id)
  | loaderFailure (id : Datum) {cause : Fault} (foreign : cause.Foreign) :
      IsFailure (.loaderFailure id cause true)
  | evaluationFailure (id : Datum) {cause : Fault} (foreign : cause.Foreign) :
      IsFailure (.evaluationFailure id cause true)

theorem IsFailure.kind {fault : Fault} (failure : fault.IsFailure) :
    fault.kind ∈ ["UnsupportedProtocol", "NoBareLoader", "LoaderFailure", "EvaluationFailure"] := by
  cases failure <;> simp [Fault.kind]

/-- One of some errors that are made up, or what is kept by one as the cause of it. -/
inductive Stems (E : Fault → Prop) : Fault → Prop
  | made {fault : Fault} (made : E fault) : Stems E fault
  | cause {fault cause : Fault} (stems : Stems E fault) (kept : fault.cause? = some cause) : Stems E cause

/-- What the surroundings of the system raise if they make up only some of its errors. -/
def Outside (E : Fault → Prop) (fault : Fault) : Prop := fault.Foreign ∨ E fault

/-- An error of the system: one that it has raised, or one that comes with some that are made up. -/
def Own (E : Fault → Prop) (fault : Fault) : Prop :=
  fault.IsFailure ∨ fault.isRequireError = true ∧ fault.Stems E

/-- What is found in a system where only some of its errors are made up. -/
def Known (E : Fault → Prop) (fault : Fault) : Prop := fault.Foreign ∨ fault.Own E

variable {E F : Fault → Prop} {fault : Fault}

theorem Stems.mono (stems : fault.Stems E) (sub : ∀ fault, E fault → F fault) : fault.Stems F := by
  induction stems with
  | made made => exact .made (sub _ made)
  | cause _ kept ih => exact .cause ih kept

theorem Own.mono (own : fault.Own E) (sub : ∀ fault, E fault → F fault) : fault.Own F :=
  own.imp_right (And.imp_right fun stems => stems.mono sub)

theorem Known.mono (known : fault.Known E) (sub : ∀ fault, E fault → F fault) : fault.Known F :=
  known.imp_right fun own => own.mono sub

theorem Known.own (known : fault.Known E) (own : fault.isRequireError = true) : fault.Own E := by
  rcases known with foreign | own
  · exact absurd (own.symm.trans foreign) (by decide)
  · exact own

theorem Outside.own (outside : fault.Outside E) (own : fault.isRequireError = true) :
    fault.isRequireError = true ∧ E fault := by
  rcases outside with foreign | made
  · exact absurd (own.symm.trans foreign) (by decide)
  · exact ⟨own, made⟩

theorem Outside.known (outside : fault.Outside E) : fault.Known E := by
  cases own : fault.isRequireError with
  | false => exact .inl own
  | true => exact .inr (.inr ((outside.own own).imp_right .made))

instance : Broad (Outside E) := ⟨.inl⟩

theorem Made.isRequireError {cause : Option Raised} (made : fault.Made cause) :
    fault.isRequireError = true := by
  cases made <;> rfl

theorem isRequireError_of_cause? {cause : Fault} (kept : fault.cause? = some cause) :
    fault.isRequireError = true := by
  unfold cause? at kept
  split at kept
  · rfl
  · rfl
  · cases kept

/-- What is kept as the cause of an error is known if the error is. -/
theorem Known.cause {cause : Fault} (known : fault.Known E) (kept : fault.cause? = some cause) :
    cause.Known E := by
  rcases known.own (isRequireError_of_cause? kept) with failure | ⟨_, stems⟩
  · cases failure with
    | unsupportedProtocol | noBareLoader => cases kept
    | loaderFailure _ foreign | evaluationFailure _ foreign =>
      cases kept
      exact .inl foreign
  · cases own : cause.isRequireError with
    | false => exact .inl own
    | true => exact .inr (.inr ⟨own, .cause stems kept⟩)

end Fault

open ModuleSystem.Action (Flow Moves)
open Fault (Outside Known)

theorem Loader.raises_of_unprepared {P : Fault → Prop} {loader : Loader}
    (unprepared : ∀ answers, loader ≠ .prepared answers) : loader.Raises P :=
  fun answers same => absurd same (unprepared answers)

namespace World

variable {P : Fault → Prop} {world : World}

theorem Raises.mono {Q : Fault → Prop} (raises : world.Raises P) (sub : ∀ fault, P fault → Q fault) :
    world.Raises Q where
  host url replies fault known member := sub fault (raises.host url replies fault known member)
  loaders number answers same :=
    have own := raises.loaders number answers same
    ⟨fun id fault known => sub fault (own.resolutions id fault known),
      fun id fault known => sub fault (own.errors id fault known)⟩
  builtins name builtin known fault raised := sub fault (raises.builtins name builtin known fault raised)

theorem loaderOf_push {mounted : Mounted} {registry : Registry Nat} (number : Nat) :
    Session.loaderOf { world with registry, mounted := world.mounted.push mounted } number =
      if number = world.mounted.size then mounted.loader else Session.loaderOf world number := by
  unfold Session.loaderOf
  dsimp only
  rw [Array.getElem?_push]
  split
  · rfl
  · rfl

theorem loaderOf_push_self {mounted : Mounted} {registry : Registry Nat} :
    Session.loaderOf { world with registry, mounted := world.mounted.push mounted }
      world.mounted.size = mounted.loader := (loaderOf_push _).trans (if_pos rfl)

theorem loaderOf_push_of_lt {mounted : Mounted} {registry : Registry Nat} {number : Nat}
    (old : number < world.mounted.size) :
    Session.loaderOf { world with registry, mounted := world.mounted.push mounted } number =
      Session.loaderOf world number := (loaderOf_push number).trans (if_neg (Nat.ne_of_lt old))

/-- One more loader. -/
theorem Raises.mount (raises : world.Raises P) {loader : Loader} (own : loader.Raises P)
    (registry : Registry Nat) :
    World.Raises P { world with registry, mounted := world.mounted.push ⟨loader, 0, []⟩ } :=
  { raises with
    loaders := fun number => by
      rw [loaderOf_push]
      split
      · exact own
      · exact raises.loaders number }

theorem Raises.registerBare (raises : world.Raises P) {loader : Option Loader}
    (own : ∀ found ∈ loader, found.Raises P) : (world.registerBare loader).Raises P := by
  cases loader with
  | none => exact { raises with }
  | some found => exact raises.mount (own found rfl) _

end World

namespace Session

variable {E P : Fault → Prop} {s t : Session}

/-! ## Setting up -/

instance : Flow (SetUp P) where
  refl _ := ⟨rfl, rfl, rfl, rfl, rfl, id⟩
  trans early late := ⟨late.cache.trans early.cache, late.heap.trans early.heap,
    late.records.trans early.records, late.scope.trans early.scope,
    late.history.trans early.history, late.raises ∘ early.raises⟩

/-- The world with one more loader, which serves a protocol. -/
def serving (world : World) (protocol : String) (loader : Loader) : World :=
  { world with
    registry := { world.registry with
      loaders := world.registry.loaders.set protocol (some world.mounted.size) }
    mounted := world.mounted.push ⟨loader, 0, []⟩ }

theorem register_eq {protocol : String} (nonempty : protocol ≠ "") (loader : Loader) (s : Session) :
    register (.text protocol) loader s = (.value (), ⟨s.cache, serving s.rest protocol loader⟩) := by
  have entered : s.rest.register (.text protocol) loader = .ok (serving s.rest protocol loader) := by
    unfold World.register
    rw [Registry.register_text _ nonempty]
    rfl
  simp only [register, Action.bind_apply, Session.world, Action.gets, entered]
  rfl

theorem register_moves {protocol : String} (nonempty : protocol ≠ "") {loader : Loader}
    (own : loader.Raises P) : Moves (SetUp P) (register (.text protocol) loader) := fun s =>
  .of_ran (register_eq nonempty loader s) (register_eq nonempty loader s)
    ⟨rfl, rfl, rfl, rfl, rfl, fun raises => raises.mount own _⟩ trivial

/-- Settings ask for loaders without prepared answers only. -/
theorem loaderFor?_raises {workingDirectory protocol : String} {settings : Settings} {loader : Loader}
    (found : loaderFor? workingDirectory settings protocol = some loader) :
    protocol ≠ "" ∧ loader.Raises P := by
  unfold loaderFor? at found
  split at found
  · rename_i same
    cases found
    exact ⟨by rw [same]; decide, Loader.raises_of_unprepared (by rintro _ ⟨⟩)⟩
  · split at found
    · rename_i web
      cases found
      refine ⟨?_, Loader.raises_of_unprepared (by rintro _ ⟨⟩)⟩
      rintro rfl
      exact absurd web (by decide)
    · cases found

theorem registerAll_moves (settings : Settings) (protocols : List String) :
    Moves (SetUp P) (registerAll settings protocols) := by
  induction protocols with
  | nil => exact .done ()
  | cons protocol rest ih =>
    refine .bind (.gets _) fun world => ?_
    split
    · obtain ⟨nonempty, own⟩ := loaderFor?_raises ‹_›
      exact .bind (register_moves nonempty own) fun _ => ih
    · exact ih

/-- Whatever the settings are, a session is set up from them without new errors. -/
theorem configure_moves (settings : Settings) : Moves (SetUp P) (configure settings) := by
  have noted : Moves (SetUp P) (Action.get >>= fun session : Session =>
      note runtimeSource ("created " ++ session.text)) :=
    .bind .get fun _ => .modify fun _ => ⟨rfl, rfl, rfl, rfl, rfl, fun raises => { raises with }⟩
  refine .bind (registerAll_moves settings settings.protocols) fun _ => ?_
  dsimp only
  split
  · refine .bind (.modify fun s => ?_) fun _ => noted
    refine ⟨rfl, rfl, rfl, rfl, rfl, fun raises => ?_⟩
    change World.Raises P (s.rest.registerBare (some (.ofSearchPath _ _ _)))
    refine raises.registerBare fun loader same => ?_
    cases same
    exact Loader.raises_of_unprepared (by rintro _ ⟨⟩)
  · exact noted

/-! ## Sound sessions -/

/-- There is nothing in a session without modules. -/
theorem clean_empty {w : Watch} {host : Host} (raises : host.Raises w.outside)
    (visited : w.visits (Session.empty host)) : w.Clean (Session.empty host) where
  visited := visited
  holds := ⟨Heap.within_empty, fun _ => ModuleRecord.within_default, by rintro _ ⟨⟩, by rintro _ ⟨⟩,
    by rintro _ _ ⟨⟩⟩
  raises := ⟨raises, fun _ => Loader.raises_of_unprepared (by rintro _ ⟨⟩), by rintro _ _ ⟨⟩⟩
  resolves _ := (Loader.raises_of_unprepared (by rintro _ ⟨⟩)).resolvesBut
  values := by rintro _ _ ⟨⟩
  errors := by rintro _ _ ⟨⟩
  parts := by rintro _ ⟨⟩
  pending := by rintro _ _ ⟨⟩

/-- Whatever is set up keeps a session clean, if its surroundings raise only what is allowed for. It is
tracked that records have been made only where the modules and the main one stay. -/
theorem SetUp.clean {w : Watch} (setUp : SetUp P s t) (clean : w.Clean s) (visited : w.visits t)
    (around : ∀ raised, w.around s raised → w.around t raised) (raises : t.rest.Raises w.outside)
    (resolves : ∀ number, (loaderOf t.rest number).ResolvesBut w.unresolved)
    (stays : w.tracks → t.rest.modules = s.rest.modules ∧ t.rest.main = s.rest.main) : w.Clean t := by
  have near (reference : Value.Reference) (was : w.near s reference) : w.near t reference := by
    cases reference with
    | error raised => exact around raised was
    | record number =>
      intro tracks
      rw [setUp.records]
      exact was tracks
  exact
    { visited
      holds := by
        obtain ⟨heap, records, scope, main, modules⟩ := clean.holds.mono near
        refine ⟨?_, fun number => ?_, fun found same => ?_, fun number same tracks => ?_,
          fun key number known tracks => ?_⟩
        · rw [setUp.heap]
          exact heap
        · rw [World.record_congr setUp.records]
          exact records number
        · rw [setUp.scope] at same
          exact scope found same
        · rw [(stays tracks).2] at same
          exact main number same tracks
        · rw [(stays tracks).1] at known
          exact modules key number known tracks
      raises
      resolves
      values := fun key value known => (clean.values key value (setUp.cache ▸ known)).mono near
      errors := fun key error known =>
        (clean.errors key error (setUp.cache ▸ known)).imp_left (around error)
      parts := fun key partless => clean.parts key (setUp.cache ▸ partless)
      pending := fun key number known => near _ (clean.pending key number (setUp.cache ▸ known)) }

/-- The errors of the system that the surroundings of a session make up, or that scripts have made. -/
def MadeUp (E : Fault → Prop) (s : Session) (fault : Fault) : Prop :=
  E fault ∨ .make fault ∈ s.rest.history

theorem MadeUp.later {fault : Fault} (madeUp : s.MadeUp E fault)
    (suffix : s.rest.history <:+ t.rest.history) :
    t.MadeUp E fault := madeUp.imp_right (suffix.subset ·)

/-- Of the errors of the system only those are around that it has raised, and those that are made up. -/
def knowing (E : Fault → Prop) : Watch where
  visits _ := True
  around s raised := raised.fault.Known (s.MadeUp E)
  outside := Outside E
  unresolved := Outside E
  answers _ := True
  tracks := False

theorem known_of_outside {fault : Fault} (outside : fault.Outside E) : fault.Known (s.MadeUp E) :=
  outside.known.mono fun _ => .inl

instance : (knowing E).Lawful where
  grows step known := known.mono fun _ madeUp => madeUp.later step.suffix
  goesOn _ visited := visited
  broad := inferInstanceAs (Fault.Broad (Outside E))
  admits {s raised} admits := by
    generalize fault : raised.fault = found at admits
    change raised.fault.Known _
    rw [fault]
    cases admits with
    | foreign foreign => exact .inl foreign
    | outside outside | unresolved outside => exact known_of_outside outside
    | resolving _ foreign => exact .inr (.inl (.loaderFailure _ foreign))
    | unsupportedProtocol protocol => exact .inr (.inl (.unsupportedProtocol protocol))
    | noBareLoader id => exact .inr (.inl (.noBareLoader id))
  makes made _ := .inr (.inr ⟨made.isRequireError, .made (.inr (List.mem_cons_self ..))⟩)
  causes _ known kept _ := known.cause kept
  settles {_ _ _ _ raised} _ step whence := by
    rcases whence with known | ⟨_, breaks⟩
    · exact known.mono fun _ madeUp => madeUp.later step.suffix
    change raised.fault.Known _
    cases breaks.arises with
    | unread _ _ _ _ foreign wraps =>
      rw [wraps]
      exact .inr (.inl (.loaderFailure _ foreign))
    | raises _ _ _ _ _ foreign wraps =>
      rw [wraps]
      exact .inr (.inl (.evaluationFailure _ foreign))

/-- There are no errors of the system in a session but its own, and those that are made up. -/
abbrev Sound (E : Fault → Prop) (s : Session) : Prop := (knowing E).Clean s

namespace Sound

theorem empty {host : Host} (raises : host.Raises (Outside E)) : (Session.empty host).Sound E :=
  clean_empty raises trivial

/-- Whatever is set up keeps a session sound. -/
theorem set_up (sound : s.Sound E) (setUp : SetUp (Outside E) s t) : t.Sound E := by
  have raises : t.rest.Raises (Outside E) := setUp.raises sound.raises
  refine setUp.clean sound trivial (fun raised known => ?_) raises
    (fun number => (raises.loaders number).resolvesBut) False.elim
  change raised.fault.Known (t.MadeUp E)
  unfold MadeUp
  rw [setUp.history]
  exact known

theorem steps (sound : s.Sound E) (steps : SmallSteps (knowing E).around s t) : t.Sound E :=
  Watch.clean_of_steps steps id (fun _ => trivial) sound

theorem after (sound : s.Sound E) (tasks : List Task) : (s.after tasks).Sound E :=
  (after_moved (fun _ => trivial) sound id tasks).clean sound

end Sound

/-- Where a session gets if its surroundings make up only some errors of the system: something is set up,
tasks are done, and on the way there are the states that their steps lead through. Scripts may make more of
these errors. -/
inductive Reachable (E : Fault → Prop) : Session → Prop
  | empty {host : Host} (raises : host.Raises (Outside E)) : Reachable E (Session.empty host)
  | set_up {s t : Session} (reached : Reachable E s) (setUp : SetUp (Outside E) s t) : Reachable E t
  | after {s : Session} (reached : Reachable E s) (tasks : List Task) : Reachable E (s.after tasks)
  | during {s t : Session} (reached : Reachable E s) (steps : SmallSteps (knowing E).around s t) :
    Reachable E t

namespace Reachable

theorem sound (reached : s.Reachable E) : s.Sound E := by
  induction reached with
  | empty raises => exact .empty raises
  | set_up _ setUp ih => exact ih.set_up setUp
  | after _ tasks ih => exact ih.after tasks
  | during _ steps ih => exact ih.steps steps

end Reachable

end Session

end ModuleSystem
