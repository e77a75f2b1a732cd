import ModuleSystem.Proofs.Run.Script
import ModuleSystem.Proofs.Source

/-! # Runs of loads

A load asks for other modules only if its key has a source. Inside the load there is then one key less
that has a source and no entry, so this number bounds how deep loads can be nested. Two ways to answer
requests that agree inside a load make the load the same, and the load moves along every relation that its
stages and its requests follow; in particular it is a run. -/

namespace ModuleSystem

open ModuleSystem.Action (Moves Agree Closed Flow)

namespace Session

/-- How many keys have a source and no entry. -/
noncomputable def room (s : Session) : Nat :=
  {key | s.rest.HasSource key ∧ s.cache.get? key = none}.ncard

/-- A request can be made inside some loads with less than some room left. -/
structure Ready (loadings : List Loading) (depth : Nat) (s : Session) : Prop where
  sourced : ∀ loading ∈ loadings.head?, s.rest.HasSource loading.key
  room : s.room < depth

/-- Two ways to answer requests do the same inside all loads with less than some room left. -/
def AgreeWithin (depth : Nat) (first second : Script.Requirer) : Prop :=
  ∀ loadings parent raw,
    Agree (Ready loadings depth) (Run loadings) (first parent raw) (second parent raw)

/-- A session inside a load. If the key has a source, less than some room is left. -/
structure Inside (world : World) (loading : Loading) (depth : Nat) (s : Session) : Prop where
  later : world.Later s.rest
  pending : s.cache.get? loading.key = some (.pending (some loading.number))
  room : world.HasSource loading.key → s.room < depth

variable {loadings outer : List Loading} {loading : Loading} {depth : Nat} {s t : Session}
  {world : World} {first second : Script.Requirer}

theorem finite_room (s : Session) :
    {key | s.rest.HasSource key ∧ s.cache.get? key = none}.Finite :=
  s.rest.finite_hasSource.subset fun _ member => member.1

theorem room_lt_nestingBound (s : Session) : s.room < nestingBound s.rest :=
  (Set.ncard_le_ncard (fun _ member => member.1) s.rest.finite_hasSource).trans_lt
    s.rest.ncard_hasSource

theorem Run.room_le (run : Run loadings s t) : t.room ≤ s.room := by
  refine Set.ncard_le_ncard ?_ s.finite_room
  rintro key ⟨sourced, absent⟩
  refine ⟨(run.later.hasSource_iff key).mp sourced, ?_⟩
  by_contra known
  obtain ⟨entry, known⟩ := Option.ne_none_iff_exists'.mp known
  rw [run.keeps_entry known] at absent
  cases absent

theorem room_start {key : String} (part : Option Nat) (sourced : s.rest.HasSource key)
    (absent : s.cache.get? key = none) : room (Cache.start hooks key part s) < s.room := by
  refine Set.ncard_lt_ncard ⟨?_, fun reverse => ?_⟩ s.finite_room
  · rintro other ⟨otherSourced, otherAbsent⟩
    refine ⟨((Run.start_later key part s).hasSource_iff other).mp otherSourced, ?_⟩
    rw [Cache.get?_start] at otherAbsent
    split at otherAbsent
    · cases otherAbsent
    · exact otherAbsent
  · have member := (reverse ⟨sourced, absent⟩).2
    rw [Cache.get?_start, if_pos rfl] at member
    cases member

theorem Ready.closed : Closed (Ready loadings depth) (Run loadings) := fun _ _ ready run =>
  ⟨fun loading top => (run.later.hasSource_iff _).mpr (ready.sourced loading top),
    run.room_le.trans_lt ready.room⟩

theorem Inside.closed : Closed (Inside world loading depth) (Run (loading :: outer)) :=
  fun _ _ inside run => ⟨inside.later.trans run.later, run.keeps_entry inside.pending,
    fun sourced => run.room_le.trans_lt (inside.room sourced)⟩

/-- Inside the load of a key with a source, requests are answered alike. -/
theorem AgreeWithin.alike (agree : AgreeWithin depth first second)
    (sourced : world.HasSource loading.key) :
    Script.Alike (Inside world loading depth) (Run (loading :: outer)) first second where
  closed := Inside.closed
  agree parent raw := (agree (loading :: outer) parent raw).mono fun s inside =>
    ⟨fun top same => by
      cases same
      exact (inside.later.hasSource_iff _).mpr sourced, inside.room sourced⟩

/-- Two actions agree inside a load. -/
abbrev AgreeInside {α : Type} (world : World) (loading : Loading) (outer : List Loading)
    (depth : Nat) (x y : SessionAction α) : Prop :=
  Agree (Inside world loading depth) (Run (loading :: outer)) x y

/-- The stages of a load go along a relation that does not leave the sessions in which it is in progress. -/
structure Stages (P : Session → Prop) (R : Session → Session → Prop) (loading : Loading) : Prop where
  closed : Closed P R
  work (work : Work) {s : Session} (inside : P s) :
    R s (s.update fun world => world.tell (.work work loading.key loading.number))
  attach {s : Session} (inside : P s) :
    R s (s.update fun world => world.attach loading.key loading.number)
  enter {s : Session} (inside : P s) :
    R s (s.update fun world => world.tell (.enter loading.number (world.record loading.number).exports))

theorem Inside.stages : Stages (Inside world loading depth) (Run (loading :: outer)) loading where
  closed := Inside.closed
  work _ _ inside := .work (.refl _ _) inside.pending
  attach _ := .attach (.refl _ _)
  enter inside := .enter (.refl _ _) inside.pending

section

variable {P : Session → Prop} {R : Session → Session → Prop} [Tolerant R]

theorem finish_moves (number : Nat) : Moves R (finish number) :=
  .bind (change_moves (fun _ => .label fun _ => rfl) fun _ => rfl) fun _ => exportsOf_moves number

theorem assignExports_moves (number : Nat) (value : Value) :
    Moves R (change fun world => world.assignExports number value) :=
  change_moves (fun _ => .assign) fun _ => rfl

theorem wrapFailure_agree {α : Type} (number : Nat) {x y : SessionAction α} (agree : Agree P R x y) :
    Agree P R (wrapFailure number x) (wrapFailure number y) := by
  refine agree.handle fun raised => ?_
  split
  · exact fun s fair => ⟨rfl, Flow.refl s, fair⟩
  · exact (Moves.bind .get fun _ => raiseBecause_moves _ _).agree

/-! ## Evaluating -/

theorem scriptText_moves (source : Datum) : Moves R (scriptText source) := by
  unfold scriptText
  split
  · split
    · exact raise_moves _
    · exact .done _
  · split
    · exact .done _
    · exact raise_moves _
  · exact raise_moves _

theorem readStatements_moves (source : Datum) : Moves R (readStatements source) := by
  refine .bind (scriptText_moves source) fun text => ?_
  split
  · exact .pure _
  · exact raise_moves _

theorem raiseAgain_ne_value {α : Type} (raised : Raised) (s : Session) (a : α) :
    (raiseAgain raised s).1 ≠ .value a := by
  intro value
  unfold raiseAgain at value
  split at value <;> cases value

/-- An error that is raised is not a value. -/
theorem raise_ne_value {α : Type} (fault : Fault) (s : Session) (a : α) :
    (raise fault s).1 ≠ .value a := by
  intro value
  obtain ⟨_, _, _, value⟩ := Action.bind_value value
  exact raiseAgain_ne_value _ _ _ value

theorem raiseBecause_ne_value {α : Type} (fault : Fault) (cause : Raised) (s : Session) (a : α) :
    (raiseBecause fault cause s).1 ≠ .value a := by
  intro value
  obtain ⟨_, _, _, value⟩ := Action.bind_value value
  obtain ⟨_, _, _, value⟩ := Action.bind_value value
  exact raiseAgain_ne_value _ _ _ value

theorem decodeSource_ne_bytes (source : Datum) (bytes : List UInt8) :
    decodeSource source ≠ .scalar (.bytes bytes) := by
  unfold decodeSource
  split
  · simp
  · rename_i other
    rintro rfl
    exact other bytes rfl

/-- Of the sources that reach an evaluator only texts can be read as statements. -/
theorem readStatements_value {source : Datum} {statements : List Script.Stmt}
    (value : (readStatements (decodeSource source) s).1 = .value statements) :
    ∃ text, decodeSource source = .text text := by
  obtain ⟨_, _, read, _⟩ := Action.bind_value value
  have noBytes := decodeSource_ne_bytes source
  generalize decodeSource source = decoded at read noBytes
  unfold scriptText at read
  split at read
  · exact ⟨_, rfl⟩
  · exact absurd rfl (noBytes _)
  · exact absurd (congrArg Prod.fst read) (raise_ne_value _ _ _)

theorem evaluateScript_agree {source : Datum} (stages : Stages P R loading)
    (alike : ∀ text, decodeSource source = .text text → Script.Alike P R first second) :
    Agree P R (evaluateScript first (decodeSource source) loading.number)
      (evaluateScript second (decodeSource source) loading.number) := by
  refine .bind_of stages.closed (readStatements_moves _).agree fun s statements _ value => ?_
  obtain ⟨text, decoded⟩ := readStatements_value value
  refine .bind stages.closed world_moves.agree fun now => ?_
  refine .bind stages.closed (.modify fun s inside => stages.enter inside) fun _ => ?_
  refine .bind stages.closed ?_ fun _ => (finish_moves _).agree
  exact Script.inScope_agree _ (Script.runSource_agree (alike text decoded) statements)

theorem evaluateDocument_moves (format : Option String) (source : Datum) (name : String)
    (number : Nat) : Moves R (evaluateDocument format source name number) :=
  .bind (ofExcept_moves _) fun _ => .bind (ofDatum_moves _) fun _ =>
    .bind (assignExports_moves _ _) fun _ => finish_moves number

theorem evaluateWith_agree {source : Datum} (stages : Stages P R loading) (evaluator : Evaluator)
    (name : String) (alike : ∀ text, decodeSource source = .text text → Script.Alike P R first second) :
    Agree P R (evaluateWith first evaluator (decodeSource source) name loading.number)
      (evaluateWith second evaluator (decodeSource source) name loading.number) := by
  cases evaluator with
  | script => exact evaluateScript_agree stages alike
  | data format => exact (evaluateDocument_moves _ _ _ _).agree

end

/-! ## Loading -/

theorem ofExcept_value {α : Type} {result : Except Fault α} {a : α}
    (value : (ofExcept result s).1 = .value a) : result = .ok a := by
  cases result with
  | ok _ => cases value; rfl
  | error fault => exact absurd value (raise_ne_value _ _ _)

theorem fromLoader_value {α : Type} {id : Datum} {action : HostAction α} {a : α}
    (value : (fromLoader id action s).1 = .value a) : (action s.rest.host).1 = .value a := by
  obtain ⟨outcome, _, ran, value⟩ := Action.bind_value value
  have same : (action s.rest.host).1 = outcome := by cases ran; rfl
  split at value
  · cases value
    exact same
  · unfold raiseLoaderError at value
    split at value
    · exact absurd value (raise_ne_value _ _ _)
    · obtain ⟨_, _, _, value⟩ := Action.bind_value value
      exact absurd value (raiseBecause_ne_value _ _ _ _)
  · exact absurd value (raise_ne_value _ _ _)

theorem fetchSource_moves {R : Session → Session → Prop} [Tolerant R] (destination : Destination) :
    Moves R (fetchSource destination) :=
  .bind world_moves fun _ => .bind (note_moves _ _) fun _ =>
    .bind (change_moves (fun _ => .mounted fun _ => rfl) fun _ => rfl) fun _ =>
      .bind (recordCall_moves _ _) fun _ => fromLoader_moves _ (Loader.load_moves _ _)

/-- A source is asked of the loader of the destination, whose load has been noted by then. -/
theorem fetchSource_eq (destination : Destination) (s : Session) :
    ∃ t : Session, (t.rest.host.files = s.rest.host.files ∧ t.rest.host.network = s.rest.host.network) ∧
      fetchSource destination s = fromLoader (.text destination.key)
        ((loaderOf s.rest destination.loader).load destination.resolved) t := by
  let loader := loaderOf s.rest destination.loader
  let noted := (note runtimeSource ("loading " ++ destination.key ++ " via " ++ loader.text) s).2
  let counted := noted.update fun world => world.updateMounted destination.loader fun mounted =>
    { mounted with loads := mounted.loads + 1 }
  exact ⟨(recordCall destination.loader (.load destination.resolved) counted).2, ⟨rfl, rfl⟩, rfl⟩

/-- A source comes from the loader of the destination. -/
theorem fetchSource_value {destination : Destination} {source : Datum}
    (value : (fetchSource destination s).1 = .value source) :
    ∃ late, s.rest.host.Later late ∧
      ((loaderOf s.rest destination.loader).load destination.resolved late).1 = .value source := by
  obtain ⟨_, _, got, value⟩ := Action.bind_value value
  cases got
  obtain ⟨_, _, _, noted, value⟩ := (note_moves _ _).bind_value (R := Run []) value
  obtain ⟨_, _, counts, value⟩ := Action.bind_value value
  obtain ⟨_, _, _, called, loads⟩ := (recordCall_moves _ _).bind_value (R := Run []) value
  have onward := called.later.host
  cases counts
  exact ⟨_, noted.later.host.trans onward, fromLoader_value loads⟩

section

variable {P : Session → Prop} {R : Session → Session → Prop} [Tolerant R]

/-- Requests need to be answered alike only if the source is text. -/
theorem load_agree {destination : Destination} {number : Nat}
    (stages : Stages P R ⟨destination.key, number⟩)
    (alike : ∀ s source text, P s → (fetchSource destination s).1 = .value source →
      decodeSource source = .text text → Script.Alike P R first second) :
    Agree P R (load first destination number) (load second destination number) := by
  refine .bind stages.closed (.modify fun s => stages.work .fetch) fun _ => ?_
  refine .bind_of stages.closed (fetchSource_moves _).agree fun s source inside fetched => ?_
  refine .bind stages.closed (.modify fun s => stages.attach) fun _ => ?_
  refine .bind stages.closed (.modify fun s => stages.work .evaluate) fun _ => ?_
  refine .bind stages.closed world_moves.agree fun now => ?_
  refine wrapFailure_agree number ?_
  exact evaluateWith_agree stages _ _ fun text => alike s source text inside fetched

theorem exportAll_moves (number : Nat) :
    ∀ exports : List (String × Datum), Moves R (exportAll number exports)
  | [] => .done _
  | _ :: rest =>
    .bind (ofDatum_moves _) fun _ => .bind (exportsOf_moves _) fun _ =>
      .bind (Script.setMember_moves _ _ _) fun _ => exportAll_moves number rest

theorem exportRequired_agree (number : Nat) (alike : Script.Alike P R first second) :
    ∀ requires : List (String × Datum),
      Agree P R (exportRequired first number requires) (exportRequired second number requires)
  | [] => (Moves.done _).agree
  | _ :: rest =>
    .bind alike.closed (ofDatum_moves _).agree fun _ =>
      .bind alike.closed (alike.agree _ _) fun _ =>
        .bind alike.closed (exportsOf_moves _).agree fun _ =>
          .bind alike.closed (Script.setMember_moves _ _ _).agree fun _ =>
            exportRequired_agree number alike rest

theorem makeBuiltin_agree (builtin : Builtin) (number : Nat) (alike : Script.Alike P R first second) :
    Agree P R (makeBuiltin first builtin number) (makeBuiltin second builtin number) := by
  refine .bind alike.closed Moves.get.agree fun _ => ?_
  refine .bind alike.closed (.modify fun s _ => Tolerant.step s .builtinCalls rfl) fun _ => ?_
  refine .bind alike.closed (exportAll_moves _ _).agree fun _ => ?_
  refine .bind alike.closed (exportRequired_agree number alike _) fun _ => ?_
  split
  · exact (raise_moves _).agree
  · exact (ofDatum_moves _).agree

theorem loadBuiltin_agree {key : String} {number : Nat} (builtin : Builtin)
    (stages : Stages P R ⟨key, number⟩) (alike : Script.Alike P R first second) :
    Agree P R (loadBuiltin first key builtin number) (loadBuiltin second key builtin number) := by
  refine .bind stages.closed (.modify fun s => stages.attach) fun _ => ?_
  refine .bind stages.closed (.modify fun s => stages.work .make) fun _ => ?_
  refine .bind stages.closed (wrapFailure_agree number (makeBuiltin_agree builtin number alike))
    fun value => ?_
  split
  · exact .bind stages.closed (assignExports_moves _ _).agree fun _ => (finish_moves _).agree
  · exact (finish_moves _).agree

end

/-! ## The value of a load -/

/-- Whenever an action has a value, these are the exports that a record has at its end. -/
def Delivers (number : Nat) (x : SessionAction Value) : Prop :=
  ∀ s value, (x s).1 = .value value → ((x s).2.rest.record number).exports = value

namespace Delivers

variable {number : Nat} {x : SessionAction Value}

theorem bind {α : Type} {first : SessionAction α} {next : α → SessionAction Value}
    (delivers : ∀ a, Delivers number (next a)) : Delivers number (first >>= next) := by
  intro s value ran
  obtain ⟨a, t, before, after⟩ := Action.bind_value ran
  have result : (first >>= next) s = next a t := by rw [Action.bind_apply, before]
  rw [result]
  exact delivers a t value after

theorem finish (number : Nat) : Delivers number (finish number) := by
  intro s value ran
  cases ran
  rfl

theorem wrapFailure (delivers : Delivers number x) : Delivers number (wrapFailure number x) := by
  intro s value ran
  unfold Session.wrapFailure Action.handle at ran ⊢
  split at ran
  · dsimp only at ran
    split at ran
    · cases ran
    · obtain ⟨_, _, _, ran⟩ := Action.bind_value ran
      exact absurd ran (raiseBecause_ne_value _ _ _ _)
  · exact delivers s value ran

theorem evaluateWith (require : Script.Requirer) (evaluator : Evaluator) (source : Datum)
    (name : String) (number : Nat) :
    Delivers number (evaluateWith require evaluator source name number) := by
  cases evaluator with
  | script => exact .bind fun _ => .bind fun _ => .bind fun _ => .bind fun _ => finish number
  | data format => exact .bind fun _ => .bind fun _ => .bind fun _ => finish number

theorem load (require : Script.Requirer) (destination : Destination) (number : Nat) :
    Delivers number (load require destination number) :=
  .bind fun _ => .bind fun _ => .bind fun _ => .bind fun _ => .bind fun _ =>
    .wrapFailure (.evaluateWith _ _ _ _ _)

theorem loadBuiltin (require : Script.Requirer) (key : String) (builtin : Builtin) (number : Nat) :
    Delivers number (loadBuiltin require key builtin number) := by
  refine .bind fun _ => .bind fun _ => .bind fun value => ?_
  dsimp only
  split
  · exact .bind fun _ => finish number
  · exact finish number

end Delivers

end Session

end ModuleSystem
