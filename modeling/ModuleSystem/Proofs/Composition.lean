import ModuleSystem.Proofs.Agreement
import ModuleSystem.Proofs.Layout
import ModuleSystem.Proofs.Scope.Request

/-! # Scripts one after the other

A session opens a frame for a script, with the variables that scripts have left so far, and closes it again
at the end. A script that can be read runs its statements once and in order on this frame, on whichever route
it takes. So two scripts that run one after the other do what the script does that has the second one below
the first, but for a text that one of them begins with: a source that is more than an expression keeps it in a
variable. A script that cannot be read runs nothing. -/

namespace ModuleSystem

theorem FileTree.hasNul_append (first second : String) :
    FileTree.hasNul (first ++ second) = (FileTree.hasNul first || FileTree.hasNul second) := by
  simp [FileTree.hasNul]

namespace Script

variable {source first second : String} {statements : List Stmt}

/-- A script can be read, as an expression or as statements. -/
structure Parses (source : String) : Prop where
  clean : FileTree.hasNul source = false
  read : (readExpression? source).isSome = true ∨ (readScript source).toOption.isSome = true

/-- A script that can be read can be read as statements. -/
theorem Parses.exists_statements {source : String} (parses : Parses source) :
    ∃ statements, readScript source = .ok statements := by
  rcases parses.read with expression | script
  · obtain ⟨e, read⟩ := Option.isSome_iff_exists.mp expression
    exact ⟨_, readScript_of_readExpression? read⟩
  · cases read : readScript source with
    | ok statements => exact ⟨statements, rfl⟩
    | error place => simp [read, Except.toOption] at script

/-- What a script does that has been read as some statements. A text that they begin with is kept, unless the
script is an expression. -/
def runRead (require : Requirer) (source : String) (statements : List Stmt) : FrameAction Unit :=
  if (readExpression? source).isSome then runAll require statements else runSource require statements

instance (source : String) : Decidable (Parses source) :=
  decidable_of_iff (FileTree.hasNul source = false ∧ ((readExpression? source).isSome = true ∨
      (readScript source).toOption.isSome = true))
    ⟨fun ⟨clean, read⟩ => ⟨clean, read⟩, fun ⟨clean, read⟩ => ⟨clean, read⟩⟩

/-! ## Running what has been read -/

theorem runAll_evaluate (require : Requirer) (e : Expr) (frame : Frame) :
    runAll require [.evaluate e] frame =
      ((evaluate require e frame).1.map fun _ => (), (evaluate require e frame).2) := by
  simp only [runAll, run, Action.bind_apply]
  cases evaluate require e frame with
  | mk outcome after => cases outcome <;> rfl

theorem runAll_append (require : Requirer) (early late : List Stmt) (frame : Frame) :
    runAll require (early ++ late) frame = (runAll require early >>= fun _ => runAll require late) frame := by
  induction early generalizing frame with
  | nil => rfl
  | cons statement rest ih =>
    simp only [List.cons_append, runAll, Action.bind_apply] at ih ⊢
    cases run require statement frame with
    | mk outcome after =>
      cases outcome with
      | value _ => exact ih after
      | error _ => rfl
      | interruption _ => rfl

/-! ## Texts that scripts begin with -/

/-- Whether statements begin with a text can be seen on the first one. -/
theorem documentation?_eq_some_iff {statement : Stmt} {rest : List Stmt} {text : String} :
    documentation? (statement :: rest) = some text ↔ statement = .evaluate (.literal (.text text)) := by
  unfold documentation?
  split
  · rename_i same
    cases same
    simp
  · rename_i other
    refine iff_of_false (by simp) ?_
    rintro rfl
    exact other text rest rfl

theorem documentation?_append (statement : Stmt) (rest late : List Stmt) :
    documentation? (statement :: rest ++ late) = documentation? (statement :: rest) :=
  Option.ext fun text => by rw [List.cons_append, documentation?_eq_some_iff, documentation?_eq_some_iff]

/-- The text that a script begins with, if it can be read and begins with a text that stands alone. -/
def opening? (source : String) : Option String := (readScript source).toOption.bind documentation?

/-- A script can stand below another one without a change of the texts that they keep. If the first one is a
text and nothing else, then it is an expression, or is none, with the second one below it as by itself. And
the second one begins with no text that it keeps when it runs by itself. -/
structure Joins (first second : String) : Prop where
  above : ∀ text, readScript first = .ok [.evaluate (.literal (.text text))] →
    (readExpression? (first ++ "\n" ++ second)).isSome = (readExpression? first).isSome
  below : opening? second = none ∨ (readExpression? second).isSome = true ∨ readScript first = .ok []

theorem opening?_of_read (read : readScript source = .ok statements) :
    opening? source = documentation? statements := by
  rw [opening?, read]
  rfl

/-- Scripts that begin with no texts can stand below each other. -/
theorem Joins.of_plain (above : opening? first = none) (below : opening? second = none) :
    Joins first second where
  above text read := by
    rw [opening?_of_read read] at above
    cases above
  below := .inl below

section

variable (require : Requirer)

theorem runRead_of_plain (source : String) (plain : documentation? statements = none) :
    runRead require source statements = runAll require statements := by
  unfold runRead runSource
  rw [plain]
  exact ite_self _

theorem runRead_of_several {statement next : Stmt} {rest : List Stmt}
    (read : readScript source = .ok (statement :: next :: rest)) :
    runRead require source (statement :: next :: rest) = runSource require (statement :: next :: rest) := by
  unfold runRead
  split
  · rename_i single
    obtain ⟨e, expression⟩ := Option.isSome_iff_exists.mp single
    rw [readScript_of_readExpression? expression] at read
    cases read
  · rfl

theorem runSource_append (statement : Stmt) (rest late : List Stmt) (frame : Frame) :
    runSource require (statement :: rest ++ late) frame =
      (runSource require (statement :: rest) >>= fun _ => runAll require late) frame := by
  simp only [runSource, documentation?_append]
  cases documentation? (statement :: rest) with
  | none => exact runAll_append require _ late frame
  | some text => exact runAll_append require _ late _

theorem runRead_detached {scope : Option (Ordered Value)} (detached : require.Detached scope)
    (source : String) (statements : List Stmt) :
    Action.Commutes (Frame.withScope scope) (runRead require source statements) := by
  unfold runRead
  split
  · exact runAll_detached detached statements
  · exact runSource_detached detached statements

/-- Below a script with statements nothing is kept of the second one that it does not keep by itself. -/
theorem Joins.runRead_below {late : List Stmt} (joins : Joins first second)
    (below : readScript second = .ok late) (filled : readScript first ≠ .ok []) :
    runRead require second late = runAll require late := by
  rcases joins.below with plain | single | empty
  · exact runRead_of_plain require second (opening?_of_read below ▸ plain)
  · exact if_pos single
  · exact absurd empty filled

/-- What has been read of a script below another runs after what has been read of that. -/
theorem runRead_newline {early late : List Stmt} (above : readScript first = .ok early)
    (below : readScript second = .ok late) (joins : Joins first second) (frame : Frame) :
    runRead require (first ++ "\n" ++ second) (early ++ late) frame =
      (runRead require first early >>= fun _ => runRead require second late) frame := by
  cases early with
  | nil =>
    rw [runRead_of_plain require first rfl]
    unfold runRead
    rw [readExpression?_newline above below]
    rfl
  | cons statement rest =>
    rw [joins.runRead_below require below (by simp [above])]
    cases kept : documentation? (statement :: rest) with
    | none =>
      have plain := (documentation?_append statement rest late).trans kept
      rw [runRead_of_plain require first kept, runRead_of_plain require _ plain]
      exact runAll_append require _ late frame
    | some text =>
      -- a text alone may be an expression, more than a text is none
      cases rest with
      | nil =>
        have route := joins.above text (documentation?_eq_some_iff.mp kept ▸ above)
        unfold runRead
        rw [route]
        split
        · exact runAll_append require [statement] late frame
        · exact runSource_append require statement [] late frame
      | cons next rest =>
        have joined := readScript_newline above below
        rw [runRead_of_several require above]
        rw [List.cons_append, List.cons_append] at joined ⊢
        rw [runRead_of_several require joined]
        exact runSource_append require statement (next :: rest) late frame

end

end Script

/-- How a script ends, whatever its value is. -/
def Execution.ending : Outcome Raised Execution → Outcome Raised Unit
  | .value ⟨.ok _, _⟩ => .value ()
  | .value ⟨.error raised, _⟩ => .error raised
  | .error raised => .error raised
  | .interruption raised => .interruption raised

/-- The session after a script has run on a frame: it keeps the variables of the frame. -/
def Script.Frame.closed (frame : Script.Frame) : Session :=
  frame.session.withScope (some frame.scope)

namespace Session

/-- The variables of the first script, whose record and exports are the next new ones. -/
def firstScope (world : World) : Ordered Value :=
  Ordered.ofList
    [("__name__", .text "__main__"), ("module", .record world.records.size),
      ("exports", .exports world.heap.exports.size), ("require", .require none)]

/-- The frame on which a session runs its next script. -/
def opened (session : Session) : Script.Frame :=
  match session.rest.scope with
  | some scope => ⟨scope, session⟩
  | none => ⟨firstScope session.rest, session.update fun world =>
      { world.addRecord "<script>" none none with scope := some (firstScope world) }⟩

variable {session : Session} {source first second : String} {statements : List Script.Stmt}

/-! ## Frames -/

theorem opened_of_some {scope : Ordered Value} (known : session.rest.scope = some scope) :
    session.opened = ⟨scope, session⟩ := by simp only [opened, known]

theorem opened_of_none (unknown : session.rest.scope = none) :
    session.opened = ⟨firstScope session.rest, session.update fun world =>
      { world.addRecord "<script>" none none with scope := some (firstScope world) }⟩ := by
  simp only [opened, unknown]

theorem scriptScope_eq (session : Session) :
    scriptScope session = (.value session.opened.scope, session.opened.session) := by
  cases known : session.rest.scope with
  | some scope =>
    simp [scriptScope, opened, known, Action.bind_apply, world, Action.gets, Action.pure_apply]
  | none =>
    have exports (scope : Option (Ordered Value)) :
        (({ session.rest.addRecord "<script>" none none with scope } : World).record
          session.rest.records.size).exports = .exports session.rest.heap.exports.size := by
      simp [World.addRecord, World.record, World.tell]
    simp [scriptScope, newRecord, exportsOf, opened, firstScope, known, exports, Action.bind_apply, world,
      change, Action.gets, Action.modify, Action.pure_apply, Cache.Held.update]

/-- A closed frame is opened again with its variables. -/
theorem opened_closed (frame : Script.Frame) :
    frame.closed.opened = frame.withScope (some frame.scope) := rfl

theorem closed_withScope (frame : Script.Frame) (scope : Option (Ordered Value)) :
    (frame.withScope scope).closed = frame.closed := rfl

theorem onScript_frame {α : Type} (frame : Script.Frame) (action : Script.FrameAction α) :
    onScript frame.scope action frame.session = ((action frame).1, (action frame).2.closed) := rfl

theorem ending_execute (action : SessionAction Value) (session : Session) :
    Execution.ending (execute action false session).1 = (action session).1.map fun _ => () := by
  simp only [execute, Action.bind_apply, Action.attempt]
  cases action session with
  | mk outcome after => cases outcome <;> rfl

/-! ## Scripts that can be read -/

/-- On either route a script runs its statements on the frame that is opened for it. -/
theorem evaluateSource_reads (require : Script.Requirer) (clean : FileTree.hasNul source = false)
    (read : Script.readScript source = .ok statements) :
    (evaluateSource require (.text source) session).1.map (fun _ => ()) =
        (Script.runRead require source statements session.opened).1 ∧
      (evaluateSource require (.text source) session).2 =
        (Script.runRead require source statements session.opened).2.closed := by
  have text (s : Session) : scriptText (.text source) s = (.value source, s) := by
    simp [scriptText, clean, Action.pure]
  simp only [evaluateSource, Action.bind_apply, scriptScope_eq, text, Script.runRead]
  cases expression : Script.readExpression? source with
  | some e =>
    rw [Script.readScript_of_readExpression? expression] at read
    cases read
    simp only [onScript_frame, Option.isSome_some, if_true, Script.runAll_evaluate, and_self]
  | none =>
    simp only [readStatements, Action.bind_apply, text, read, Action.pure_apply, onScript_frame,
      Option.isSome_none, Bool.false_eq_true, if_false]
    cases Script.runSource require statements session.opened with
    | mk outcome after => cases outcome <;> exact ⟨rfl, rfl⟩

theorem runScript_reads (clean : FileTree.hasNul source = false)
    (read : Script.readScript source = .ok statements) (session : Session) :
    Execution.ending (runScript (.text source) session).1 =
        (Script.runRead require source statements session.opened).1 ∧
      (runScript (.text source) session).2 =
        (Script.runRead require source statements session.opened).2.closed := by
  rw [runScript, ending_execute, execute_snd]
  exact evaluateSource_reads require clean read

/-! ## Scripts that cannot be read -/

theorem raise_ordinary {α : Type} {fault : Fault} (ordinary : fault.isInterruption = false) (s : Session) :
    raise (α := α) fault s = (.error ⟨s.rest.heap.marks, fault⟩,
      s.update fun world => { world with heap := world.heap.marked }) := by
  rw [raise_apply, ordinary, if_neg Bool.false_ne_true]

theorem evaluateSource_unread (require : Script.Requirer) (unread : ¬ Script.Parses source)
    (session : Session) :
    ∃ fault : Fault, fault.isInterruption = false ∧
      evaluateSource require (.text source) session = raise fault session.opened.session := by
  cases clean : FileTree.hasNul source with
  | true =>
    have ordinary : Fault.nulInSource.isInterruption = false := rfl
    refine ⟨.nulInSource, ordinary, ?_⟩
    have text : scriptText (.text source) = raise .nulInSource := by simp [scriptText, clean]
    simp only [evaluateSource, Action.bind_apply, scriptScope_eq, text, raise_ordinary ordinary]
  | false =>
    have text (s : Session) : scriptText (.text source) s = (.value source, s) := by
      simp [scriptText, clean, Action.pure]
    cases expression : Script.readExpression? source with
    | some e => exact absurd ⟨clean, .inl (by rw [expression]; rfl)⟩ unread
    | none =>
      cases read : Script.readScript source with
      | ok statements => exact absurd ⟨clean, .inr (by rw [read]; rfl)⟩ unread
      | error place =>
        have ordinary : (Fault.unreadableSource place.line place.column).isInterruption = false := rfl
        refine ⟨_, ordinary, ?_⟩
        simp only [evaluateSource, readStatements, Action.bind_apply, scriptScope_eq, text, expression, read,
          raise_ordinary ordinary]

/-- A script that cannot be read only raises an error. -/
theorem runScript_unread (unread : ¬ Script.Parses source) (session : Session) :
    ∃ fault, runScript (.text source) session =
      (.value ⟨.error ⟨session.opened.session.rest.heap.marks, fault⟩, none⟩,
        session.opened.session.update fun world => { world with heap := world.heap.marked }) := by
  obtain ⟨fault, ordinary, ran⟩ := evaluateSource_unread require unread session
  refine ⟨fault, ?_⟩
  simp only [runScript, execute, Action.bind_apply, Action.attempt, ran, raise_ordinary ordinary]
  rfl

/-! ## Scripts in a row -/

/-- A script below one that succeeds runs as if it came after it. -/
theorem runScript_newline (firstParses : Script.Parses first) (secondParses : Script.Parses second)
    (joins : Script.Joins first second)
    (succeeds : Execution.ending (runScript (.text first) session).1 = .value ()) :
    Execution.ending (runScript (.text (first ++ "\n" ++ second)) session).1 =
        Execution.ending (runScript (.text second) (runScript (.text first) session).2).1 ∧
      (runScript (.text (first ++ "\n" ++ second)) session).2 =
        (runScript (.text second) (runScript (.text first) session).2).2 := by
  obtain ⟨early, above⟩ := firstParses.exists_statements
  obtain ⟨late, below⟩ := secondParses.exists_statements
  have clean : FileTree.hasNul (first ++ "\n" ++ second) = false := by
    rw [FileTree.hasNul_append, FileTree.hasNul_append, firstParses.clean, secondParses.clean]
    rfl
  obtain ⟨ended, closed⟩ := runScript_reads firstParses.clean above session
  obtain ⟨joinedEnded, joinedClosed⟩ :=
    runScript_reads clean (Script.readScript_newline above below) session
  cases ran : Script.runRead require first early session.opened with
  | mk outcome frame =>
    rw [ran] at ended closed
    obtain rfl : outcome = .value () := ended.symm.trans succeeds
    rw [closed]
    obtain ⟨lastEnded, lastClosed⟩ := runScript_reads secondParses.clean below frame.closed
    have detached : Script.runRead require second late (frame.withScope (some frame.scope)) = _ :=
      Script.runRead_detached require require_detached second late frame
    have onward : Script.runRead require (first ++ "\n" ++ second) (early ++ late) session.opened =
        Script.runRead require second late frame := by
      rw [Script.runRead_newline require above below joins, Action.bind_apply, ran]
    rw [joinedEnded, joinedClosed, lastEnded, lastClosed, onward, opened_closed, detached,
      closed_withScope]
    exact ⟨rfl, rfl⟩

/-- Nothing is done to what a session has, nor to the variables that its next script finds. The first script
of a session makes these variables; later on there is nothing new but the mark of an error. -/
structure Undisturbed (before after : Session) : Prop where
  cache : after.cache = before.cache
  modules : after.rest.modules = before.rest.modules
  others : after.rest = { before.rest with
    heap := after.rest.heap, records := after.rest.records, scope := after.rest.scope
    history := after.rest.history }
  bindings : after.opened.scope = before.opened.scope
  records : ∀ number < before.rest.records.size, after.rest.record number = before.rest.record number
  objects : ∀ number < before.rest.heap.exports.size,
    after.rest.heap.attributes number = before.rest.heap.attributes number
  later : before.rest.scope.isSome = true →
    after = before.update fun world => { world with heap := world.heap.marked }

theorem undisturbed_opened (session : Session) :
    Undisturbed session
      (session.opened.session.update fun world => { world with heap := world.heap.marked }) := by
  cases known : session.rest.scope with
  | some scope =>
    have after : Session.opened (session.update fun world => { world with heap := world.heap.marked }) =
        ⟨scope, _⟩ := opened_of_some known
    rw [opened_of_some known]
    refine ⟨rfl, rfl, rfl, ?_, fun _ _ => rfl, fun _ _ => rfl, fun _ => rfl⟩
    rw [after, opened_of_some known]
  | none =>
    have kept {α : Type} {items : Array α} {item : α} {number : Nat} (old : number < items.size) :
        (items.push item)[number]? = items[number]? := by
      rw [Array.getElem?_push, if_neg (Nat.ne_of_lt old)]
    have bindings := congrArg Script.Frame.scope (opened_of_none known)
    rw [opened_of_none known]
    exact ⟨rfl, rfl, rfl, bindings.symm,
      fun _ old => congrArg (fun found : Option ModuleRecord => found.getD default) (kept old),
      fun _ old => congrArg (fun found : Option (Ordered Value) => found.getD .empty) (kept old),
      by simp [known]⟩

end Session

end ModuleSystem
