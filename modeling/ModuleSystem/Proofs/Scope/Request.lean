import ModuleSystem.Proofs.Scope.Operation

/-! # Requests without the variables of scripts

The loads that requests start run scripts on variables of their own, and not on those that a session keeps.
If the requests of these scripts are answered without these, then so is what started them. Hence `require`
is detached from the variables that a session keeps. -/

namespace ModuleSystem

variable {scope : Option (Ordered Value)} {α : Type}

namespace Session

theorem finish_detached (number : Nat) : Detached scope (finish number) :=
  .bind (change_detached fun _ => rfl) fun _ => exportsOf_detached number

theorem wrapFailure_detached (number : Nat) {x : SessionAction α} (detached : Detached scope x) :
    Detached scope (wrapFailure number x) := by
  refine .handle detached fun raised => ?_
  split
  · exact .fail _
  · refine .get_bind (fun session => ?_) fun _ => raiseBecause_detached _ _
    rw [datumOf_withScope]
    rfl

theorem scriptText_detached (source : Datum) : Detached scope (scriptText source) := by
  unfold scriptText
  repeat' split
  all_goals first
    | exact raise_detached _
    | exact .done _

theorem readStatements_detached (source : Datum) : Detached scope (readStatements source) := by
  refine .bind (scriptText_detached source) fun text => ?_
  split
  · exact .pure _
  · exact raise_detached _

theorem evaluateDocument_detached (format : Option String) (source : Datum) (name : String)
    (number : Nat) : Detached scope (evaluateDocument format source name number) :=
  .bind (ofExcept_detached _) fun datum => .bind (ofDatum_detached datum) fun _ =>
    .bind (change_detached fun _ => rfl) fun _ => finish_detached number

theorem fetchSource_detached (destination : Destination) : Detached scope (fetchSource destination) :=
  world_bind_detached (fun _ => rfl) fun _ => .bind (note_detached _ _) fun _ =>
    .bind (change_detached fun _ => rfl) fun _ => .bind (recordCall_detached _ _) fun _ =>
      fromLoader_detached _ _

theorem attach_detached (key : String) (number : Nat) :
    Detached scope (change fun world => world.attach key number) := by
  refine change_detached fun world => ?_
  unfold World.attach
  dsimp only [World.record]
  split
  · rfl
  · rfl

theorem exportAll_detached (number : Nat) (exports : List (String × Datum)) :
    Detached scope (exportAll number exports) := by
  induction exports with
  | nil => exact .done _
  | cons entry rest ih =>
    exact .bind (ofDatum_detached _) fun _ => .bind (exportsOf_detached number) fun _ =>
      .bind (Script.setMember_detached _ _ _) fun _ => ih

theorem update_noteEvent_withScope (event : Cache.Event Nat Value Raised) (session : Session) :
    (session.withScope scope).update (noteEvent event) =
      withScope scope (session.update (noteEvent event)) := by
  unfold noteEvent withScope Cache.Held.update
  dsimp only
  split
  · rfl
  · rfl

theorem lendExports_detached (number : Nat) : Detached scope (lendExports number) :=
  .bind (exportsOf_detached number) fun _ => .bind (change_detached fun _ => rfl) fun _ => .pure _

/-- A request at the cache is detached if its load is. -/
theorem getOrLoad_detached (key : String) (part : Option Nat) {load : SessionAction Value}
    (detached : Detached scope load) : Detached scope (Cache.getOrLoad hooks key part load) := by
  intro s
  have noted (event : Cache.Event Nat Value Raised) (s : Session) :
      (s.withScope scope).update (noteEvent event) = withScope scope (s.update (noteEvent event)) :=
    update_noteEvent_withScope event s
  -- the cache is not where the variables are kept
  have alike {entry : Option (Cache.Entry Nat Value Raised)} (known : s.cache.get? key = entry) :
      (s.withScope scope).cache.get? key = entry := known
  cases known : s.cache.get? key with
  | none =>
    have started : Cache.start hooks key part (s.withScope scope) =
        withScope scope (Cache.start hooks key part s) :=
      noted (.load key part) (s.put key (.pending part))
    rw [Cache.getOrLoad_of_absent hooks part load (alike known),
      Cache.getOrLoad_of_absent hooks part load known, started, detached]
    cases load (Cache.start hooks key part s) with
    | mk outcome t =>
      cases outcome with
      | value value => exact congrArg (Prod.mk _) (noted (.resolve key value) (t.put key (.resolved value)))
      | error error => exact congrArg (Prod.mk _) (noted (.fail key error) (t.put key (.failed error)))
      | interruption error => exact congrArg (Prod.mk _) (noted (.interrupt key error) (t.drop key))
  | some entry =>
    cases entry with
    | resolved value =>
      rw [Cache.getOrLoad_of_resolved hooks part load (alike known),
        Cache.getOrLoad_of_resolved hooks part load known]
      exact congrArg (Prod.mk _) (noted (.hit key) s)
    | failed error =>
      rw [Cache.getOrLoad_of_failed hooks part load (alike known),
        Cache.getOrLoad_of_failed hooks part load known]
      exact congrArg (Prod.mk _) (noted (.failureHit key) s)
    | pending lent =>
      cases lent with
      | none =>
        rw [Cache.getOrLoad_of_partless hooks part load (alike known),
          Cache.getOrLoad_of_partless hooks part load known]
        exact (congrArg (hooks.noPart key) (noted (.deadEnd key) s)).trans
          (raise_detached (.cyclicRequire (.text key)) _)
      | some number =>
        rw [Cache.getOrLoad_of_pending hooks part load (alike known),
          Cache.getOrLoad_of_pending hooks part load known]
        exact (congrArg (hooks.readPart number) (noted (.cycle key number) s)).trans
          (lendExports_detached number _)

/-! ## Requests -/

section

variable {require : Script.Requirer} (detached : require.Detached scope)

include detached

theorem evaluateWith_detached (evaluator : Evaluator) (source : Datum) (name : String) (number : Nat) :
    Detached scope (evaluateWith require evaluator source name number) := by
  cases evaluator with
  | script =>
    exact .bind (readStatements_detached source) fun statements =>
      world_bind_detached (fun _ => rfl) fun _ => .bind (change_detached fun _ => rfl) fun _ =>
        .bind (Script.inScope_detached _ (Script.runSource_detached detached statements)) fun _ =>
          finish_detached number
  | data format => exact evaluateDocument_detached format source name number

theorem load_detached (destination : Destination) (number : Nat) :
    Detached scope (load require destination number) :=
  .bind (change_detached fun _ => rfl) fun _ => .bind (fetchSource_detached destination) fun _ =>
    .bind (attach_detached _ _) fun _ => .bind (change_detached fun _ => rfl) fun _ =>
      world_bind_detached (fun _ => rfl) fun _ =>
        wrapFailure_detached number (evaluateWith_detached detached _ _ _ _)

theorem exportRequired_detached (number : Nat) (requires : List (String × Datum)) :
    Detached scope (exportRequired require number requires) := by
  induction requires with
  | nil => exact .done _
  | cons entry rest ih =>
    exact .bind (ofDatum_detached _) fun _ => .bind (detached _ _) fun _ =>
      .bind (exportsOf_detached number) fun _ => .bind (Script.setMember_detached _ _ _) fun _ => ih

theorem makeBuiltin_detached (builtin : Builtin) (number : Nat) :
    Detached scope (makeBuiltin require builtin number) := by
  refine .get_bind (fun session => ?_) fun session => ?_
  · rw [datumOf_withScope]
    rfl
  · refine .bind (change_detached fun _ => rfl) fun _ => .bind (exportAll_detached _ _) fun _ =>
      .bind (exportRequired_detached detached _ _) fun _ => ?_
    split
    · exact raise_detached _
    · exact ofDatum_detached _

theorem loadBuiltin_detached (key : String) (builtin : Builtin) (number : Nat) :
    Detached scope (loadBuiltin require key builtin number) := by
  refine .bind (attach_detached key number) fun _ => .bind (change_detached fun _ => rfl) fun _ =>
    .bind (wrapFailure_detached number (makeBuiltin_detached detached builtin number)) fun value => ?_
  dsimp only
  split
  · exact .bind (change_detached fun _ => rfl) fun _ => finish_detached number
  · exact finish_detached number

theorem requireDestination_detached (asMain : Bool) (parent : Option Nat) (destination : Destination) :
    Detached scope (requireDestination require asMain parent destination) := by
  refine .bind (newRecord_detached _ _ _) fun number => ?_
  have loaded := getOrLoad_detached destination.key (some number)
    (load_detached detached destination number)
  dsimp only
  split
  · exact .bind (change_detached fun _ => rfl) fun _ => loaded
  · exact loaded

theorem dispatch_detached (asMain : Bool) (parent : Option Nat) (raw : Value) :
    Detached scope (dispatch require asMain parent raw) := by
  refine .get_bind (fun session => ?_) fun session => ?_
  · rw [reprOf_withScope]
    rfl
  · split
    · split
      · exact raise_detached _
      · split
        · exact .bind (newRecord_detached _ _ _) fun number =>
            getOrLoad_detached _ _ (loadBuiltin_detached detached _ _ number)
        · exact .bind (resolve_detached _ parent) fun destination =>
            requireDestination_detached detached asMain parent destination
    · exact raise_detached _

end

theorem refuse_detached : refuse.Detached scope := fun _ _ =>
  .bind (mark_detached _) fun _ => .interrupt _

theorem requireWithin_detached {beyond : Script.Requirer} (detached : beyond.Detached scope) (depth : Nat)
    (asMain : Bool) : (requireWithin beyond depth asMain).Detached scope := by
  induction depth generalizing asMain with
  | zero => exact detached
  | succ depth ih => exact dispatch_detached (ih false) asMain

theorem nestingBound_withScope (world : World) :
    nestingBound { world with scope } = nestingBound world := by
  have total (entries : List (Option String × Nat)) :
      sourceTotal { world with scope } entries = sourceTotal world entries := by
    induction entries with
    | nil => rfl
    | cons entry rest ih => exact congrArg _ ih
  exact congrArg (fun total => world.builtins.size + total + 1) (total _)

/-- A request does not need the variables of scripts, and leaves them alone. -/
theorem require_detached : Script.Requirer.Detached scope require := fun parent raw =>
  world_bind_detached (fun world => by rw [nestingBound_withScope]) fun world =>
    requireWithin_detached refuse_detached (nestingBound world) false parent raw

end Session

end ModuleSystem
