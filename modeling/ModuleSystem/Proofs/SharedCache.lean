import ModuleSystem.Process
import ModuleSystem.Proofs.Evaluation
import ModuleSystem.Proofs.Trace.Settled

/-! # Caches that contexts share

A context that is given a cache with entries uses it. Whatever the contexts that use a cache do, one after the
other, its entries stay, and behind them come those of the keys that have been settled in between. So a key is
loaded once for all these contexts, and once more for every interruption. A given cache without entries is
meant to be used as well, but is taken for none by mistake, so it never gets any. -/

namespace ModuleSystem

/-! ## Settled keys -/

namespace Session

variable {s : Session} {key : String}

/-- Every request that goes to a key ends in one way, and no work is done for it. -/
def Replies (s : Session) (key : String) (outcome : Outcome Raised Value)
    (event : Cache.Event Nat Value Raised) : Prop :=
  (∀ parent raw, target? parent raw s = some key → Gives (require parent raw) s outcome [.cache event]) ∧
  ∀ path, target? none (.text (Path.absolute s.rest.host.files.workingDirectory path)) s = some key →
    Gives (requireMain path) s outcome [.cache event]

/-- Requests that go to a settled key get its value or its error. -/
def Recalls (s : Session) (key : String) : Cache.Entry Nat Value Raised → Prop
  | .pending _ => True
  | .resolved value => Replies s key (.value value) (.hit key)
  | .failed error => Replies s key (.error error) (.failureHit key)

/-- It is the same for requests of modules and for those for the main module. -/
theorem replies_of_dispatch {outcome : Outcome Raised Value} {event : Cache.Event Nat Value Raised}
    (ends : ∀ asMain parent raw, target? parent raw s = some key →
      Gives (dispatch require asMain parent raw) s outcome [.cache event]) :
    Replies s key outcome event := by
  constructor
  · intro parent raw target
    rw [require_eq_dispatch]
    exact ends false parent raw target
  · intro path target
    unfold Gives
    rw [requireMain_eq_dispatch]
    exact ends true none _ target

theorem recalls_of_get? {entry : Cache.Entry Nat Value Raised} (known : s.cache.get? key = some entry) :
    Recalls s key entry := by
  cases entry with
  | pending => trivial
  | resolved value =>
    exact replies_of_dispatch fun asMain _ _ target => dispatch_of_resolved require asMain target known
  | failed error =>
    exact replies_of_dispatch fun asMain _ _ target => dispatch_of_failed require asMain target known

end Session

/-! ## Jobs -/

/-- What a process can be asked to do: to make a context, to arrange one anew, or to have one at work. -/
inductive Job where
  | create (given : Option Nat)
  | arrange (number : Nat) (context : Context) (host : Host)
  | task (number : Nat) (task : Task)

namespace Process

/-- The process after a job. -/
def perform (p : Process) : Job → Process
  | .create given => p.create given
  | .arrange number context host => p.arrange number context host
  | .task number task => p.work number fun session => session.perform task

/-- The process after some jobs in order. -/
def after (p : Process) (jobs : List Job) : Process := jobs.foldl perform p

/-- The number of the cache that a context uses. -/
def uses (p : Process) (number : Nat) : Option Nat := (p.contexts[number]?).map Context.cache

/-- What is new in a history. -/
def news (p q : Process) : List Happening :=
  q.surroundings.history.take (q.surroundings.history.length - p.surroundings.history.length)

/-- What a job adds to the history of a cache: what happens while a context that uses it is at work. -/
def heard (p : Process) (cache : Nat) : Job → List Happening
  | .task number task =>
    if p.uses number = some cache then p.news (p.perform (.task number task)) else []
  | _ => []

/-- What some jobs add to the history of a cache, with the latest first. -/
def heardOver (p : Process) (cache : Nat) : List Job → List Happening
  | [] => []
  | job :: rest => heardOver (p.perform job) cache rest ++ p.heard cache job

variable {p q : Process} {cache number : Nat} {events : List Happening}

theorem news_eq (told : q.surroundings.history = events ++ p.surroundings.history) : p.news q = events := by
  rw [news, told, List.length_append, Nat.add_sub_cancel, List.take_left]

theorem cacheOf_create (here : cache < p.caches.size) (given : Option Nat) :
    (p.create given).cacheOf cache = p.cacheOf cache := by
  unfold create cacheOf
  split
  · rfl
  · dsimp only
    rw [Array.getElem?_push_lt here, Array.getElem?_eq_getElem here]

theorem lt_of_entries (entries : 0 < (p.cacheOf cache).size) : cache < p.caches.size := by
  by_contra beyond
  rw [cacheOf, Array.getElem?_eq_none (Nat.le_of_not_lt beyond)] at entries
  exact absurd entries (by decide)

theorem uses_modify {f : Context → Context}
    (same : ∀ context, p.contexts[number]? = some context → (f context).cache = context.cache)
    (caches : Array (Cache Nat Value Raised)) (surroundings : Surroundings) (other : Nat) :
    uses ⟨p.contexts.modify number f, caches, surroundings⟩ other = p.uses other := by
  unfold uses
  dsimp only
  rw [Array.getElem?_modify]
  split
  · rename_i here
    subst here
    cases known : p.contexts[number]? with
    | none => rfl
    | some context => exact congrArg some (same context known)
  · rfl

/-- What no job takes away: there are no fewer caches, and every context uses the cache that it has used. -/
structure Grows (p q : Process) : Prop where
  caches : p.caches.size ≤ q.caches.size
  uses : ∀ number cache, p.uses number = some cache → q.uses number = some cache

theorem Grows.refl (p : Process) : Grows p p := ⟨Nat.le_refl _, fun _ _ => id⟩

theorem Grows.trans {r : Process} (early : Grows p q) (late : Grows q r) : Grows p r :=
  ⟨early.caches.trans late.caches, fun number cache => late.uses number cache ∘ early.uses number cache⟩

theorem uses_push {context : Context} (used : p.uses number = some cache)
    (caches : Array (Cache Nat Value Raised)) :
    uses ⟨p.contexts.push context, caches, p.surroundings⟩ number = some cache := by
  obtain ⟨old, known, _⟩ := Option.map_eq_some_iff.mp used
  have here : number < p.contexts.size := (Array.getElem?_eq_some_iff.mp known).1
  rw [← used]
  unfold uses
  dsimp only
  rw [Array.getElem?_push_lt here, Array.getElem?_eq_getElem here]

theorem grows_create (p : Process) (given : Option Nat) : Grows p (p.create given) := by
  unfold create
  split
  · exact ⟨Nat.le_refl _, fun _ _ used => uses_push used _⟩
  · exact ⟨by simp, fun _ _ used => uses_push used _⟩

theorem uses_arrange (p : Process) (number : Nat) (context : Context) (host : Host) (other : Nat) :
    (p.arrange number context host).uses other = p.uses other :=
  uses_modify (f := fun old => { context with cache := old.cache }) (fun _ _ => rfl) _ _ other

theorem uses_work (p : Process) (number : Nat) (f : Session → Session) (other : Nat) :
    (p.work number f).uses other = p.uses other := by
  unfold work
  split
  · rename_i context known
    refine uses_modify ?_ _ _ other
    rintro _ again
    cases known.symm.trans again
    rfl
  · rfl

theorem size_caches_work (p : Process) (number : Nat) (f : Session → Session) :
    (p.work number f).caches.size = p.caches.size := by
  unfold work
  split
  · exact Array.size_modify
  · rfl

theorem perform_work (p : Process) (number : Nat) (task : Task) :
    p.perform (.task number task) = p.work number fun session => session.perform task := rfl

theorem grows_perform (p : Process) (job : Job) : Grows p (p.perform job) := by
  cases job with
  | create given => exact grows_create p given
  | arrange number context host =>
    exact ⟨Nat.le_refl _, fun other _ used => (uses_arrange p number context host other).trans used⟩
  | task number task =>
    rw [perform_work]
    exact ⟨(size_caches_work ..).ge, fun other _ used => (uses_work ..).trans used⟩

theorem grows_after (p : Process) (jobs : List Job) : Grows p (p.after jobs) := by
  induction jobs generalizing p with
  | nil => exact .refl p
  | cons job rest ih => exact (grows_perform p job).trans (ih (p.perform job))

theorem perform_task {context : Context} (known : p.contexts[number]? = some context) (task : Task) :
    p.perform (.task number task) = p.leave number context ((p.enter context).perform task) := by
  rw [perform_work, work, known]

theorem cacheOf_leave {context : Context} (here : context.cache < p.caches.size) (session : Session) :
    (p.leave number context session).cacheOf context.cache = session.cache := by
  simp [leave, cacheOf, Array.getElem?_modify, Array.getElem?_eq_getElem here]

/-- The caches that a context does not use stay while it is at work. -/
theorem cacheOf_task (unused : p.uses number ≠ some cache) (task : Task) :
    (p.perform (.task number task)).cacheOf cache = p.cacheOf cache := by
  cases known : p.contexts[number]? with
  | none => rw [perform_work, work, known]
  | some context =>
    rw [uses, known, Option.map_some, ne_eq, Option.some.injEq] at unused
    rw [perform_task known, cacheOf, leave, Array.getElem?_modify, if_neg unused, cacheOf]

theorem heard_task (p : Process) (cache number : Nat) (task : Task) :
    p.heard cache (.task number task) =
      if p.uses number = some cache then p.news (p.perform (.task number task)) else [] := rfl

/-- While a context is at work, what happens shows in the cache that it uses, and other caches stay. -/
theorem task_shows (here : cache < p.caches.size) (number : Nat) (task : Task) :
    Shows (p.cacheOf cache) ((p.perform (.task number task)).cacheOf cache)
      (p.heard cache (.task number task)) := by
  rw [heard_task]
  split
  · rename_i used
    obtain ⟨context, known, rfl⟩ := Option.map_eq_some_iff.mp used
    obtain ⟨events, tells⟩ := (Session.perform_run (p.enter context) task).tells
    have told : p.news (p.leave number context ((p.enter context).perform task)) = events :=
      news_eq tells.history
    rw [perform_task known, told, cacheOf_leave here]
    exact .of_tells tells
  · rename_i unused
    rw [cacheOf_task unused]
    exact .refl _

/-- What a job adds to the history of a cache shows in it. -/
theorem perform_shows (here : cache < p.caches.size) (job : Job) :
    Shows (p.cacheOf cache) ((p.perform job).cacheOf cache) (p.heard cache job) := by
  cases job with
  | create given =>
    have same : (p.perform (.create given)).cacheOf cache = p.cacheOf cache := cacheOf_create here given
    rw [same]
    exact .refl _
  | arrange => exact .refl _
  | task number task => exact task_shows here number task

theorem after_shows (here : cache < p.caches.size) (jobs : List Job) :
    Shows (p.cacheOf cache) ((p.after jobs).cacheOf cache) (p.heardOver cache jobs) := by
  induction jobs generalizing p with
  | nil => exact .refl _
  | cons job rest ih =>
    exact (perform_shows here job).trans (ih (Nat.lt_of_lt_of_le here (grows_perform p job).caches))

/-! ## Given caches -/

/-- A context that is given a cache with entries uses it, and nothing is done to the caches. -/
theorem create_given {given : Nat} (entries : 0 < (p.cacheOf given).size) :
    p.create (some given) = { p with contexts := p.contexts.push (.new given) } := by
  simp [create, Option.filter, entries]

/-- A context that is given a cache with entries uses that cache from then on, whatever it and other contexts
do. What is settled there answers its requests. What happens to all the contexts that use the cache shows in
it, so between them they load a key at most once, and once more for every interruption. -/
theorem given_cache_is_used (p : Process) (given : Nat) (entries : 0 < (p.cacheOf given).size)
    (jobs : List Job) :
    ∃ context, ((p.create (some given)).after jobs).contexts[p.contexts.size]? = some context ∧
      context.cache = given ∧
      (∀ key entry, (p.cacheOf given).get? key = some entry →
        Session.Recalls (((p.create (some given)).after jobs).enter context) key entry) ∧
      Shows (p.cacheOf given) (((p.create (some given)).after jobs).cacheOf given)
        ((p.create (some given)).heardOver given jobs) ∧
      ∀ key, (started ((p.create (some given)).heardOver given jobs)).count key ≤
        1 + (cutShort ((p.create (some given)).heardOver given jobs)).count key := by
  have used : (p.create (some given)).uses p.contexts.size = some given := by
    rw [create_given entries, uses, Array.getElem?_push_size]
    rfl
  have same : (p.create (some given)).cacheOf given = p.cacheOf given := by
    rw [create_given entries]
    rfl
  have here : given < (p.create (some given)).caches.size := lt_of_entries (same.symm ▸ entries)
  have shown := after_shows here jobs
  rw [same] at shown
  obtain ⟨context, known, cache⟩ :=
    Option.map_eq_some_iff.mp ((grows_after _ jobs).uses _ _ used)
  refine ⟨context, known, cache, fun key entry settled => Session.recalls_of_get? ?_, shown,
    shown.count_started_le⟩
  change (((p.create (some given)).after jobs).cacheOf context.cache).get? key = some entry
  rw [cache]
  exact (shown.entry key entry).mpr (.inl settled)

/-- A process with one cache, which knows one key. -/
def seeded : Process :=
  { empty .empty with caches := #[.ofList [("known", .resolved (.text "value"))]] }

/-- A context with a builtin of that name, and with one that a user interrupts. -/
def stopping : Context :=
  { Context.new 0 with
    builtins := .ofList [("known", ⟨[], [], none, .null⟩),
      ("stop", ⟨[], [], some (.named "KeyboardInterrupt" []), .null⟩)] }

/-- Two contexts are given the cache, and each is asked for the builtin that is interrupted. -/
def stoppedTwice : List Job :=
  [.create (some 0), .create (some 0), .arrange 0 stopping .empty, .arrange 1 stopping .empty,
    .task 0 (.require none (.text "stop")), .task 1 (.require none (.text "stop"))]

theorem seeded_cache_is_used :
    0 < (seeded.cacheOf 0).size ∧
      ∃ context, ((seeded.create (some 0)).after stoppedTwice).contexts[0]? = some context ∧
        Session.Gives (Session.require none (.text "known"))
          (((seeded.create (some 0)).after stoppedTwice).enter context) (.value (.text "value"))
          [.cache (.hit "known")] ∧
        Shows (seeded.cacheOf 0) (((seeded.create (some 0)).after stoppedTwice).cacheOf 0)
          ((seeded.create (some 0)).heardOver 0 stoppedTwice) := by
  obtain ⟨context, known, _, recalls, shown, _⟩ :=
    given_cache_is_used seeded 0 (by decide) stoppedTwice
  have target : (((seeded.create (some 0)).after stoppedTwice).contexts[0]?).bind (fun context =>
      Session.target? none (.text "known")
        (((seeded.create (some 0)).after stoppedTwice).enter context)) = some "known" := rfl
  refine ⟨by decide, context, known, (recalls "known" _ rfl).1 none _ ?_, shown⟩
  have found : ((seeded.create (some 0)).after stoppedTwice).contexts[0]? = some context := known
  rwa [found] at target

/-- A process with one cache, which knows nothing. -/
def vacant : Process := { empty .empty with caches := #[.empty] }

/-- A context is given the cache, and is asked for a builtin. -/
def requiredOnce : List Job :=
  [.create (some 0), .arrange 0 stopping .empty, .task 0 (.require none (.text "known"))]

/-- Contexts that share a cache may load a key twice between them, as an interruption of its load makes the
key absent again. And a cache that knows nothing yet does not come to know what is loaded by a context that is
given it, as it is dropped by mistake. -/
theorem given_caches_have_gaps :
    (0 < (seeded.cacheOf 0).size ∧
      (seeded.after stoppedTwice).uses 0 = some 0 ∧ (seeded.after stoppedTwice).uses 1 = some 0 ∧
      started (seeded.heardOver 0 stoppedTwice) = ["stop", "stop"]) ∧
    started (vacant.after requiredOnce).surroundings.history = ["known"] ∧
      ((vacant.after requiredOnce).cacheOf 0).keys = [] := by
  refine ⟨⟨?_, ?_, ?_, ?_⟩, ?_, ?_⟩
  · decide
  · rfl
  · rfl
  · rfl
  · rfl
  · rfl

/-! ## Caches without entries -/

theorem uses_create_empty {given : Nat} (empty : (p.cacheOf given).size = 0) (here : given < p.caches.size)
    (unused : p.uses number ≠ some given) (wanted : Option Nat) :
    (p.create wanted).uses number ≠ some given := by
  have new {cache : Nat} (other : cache ≠ given) (caches : Array (Cache Nat Value Raised)) :
      uses ⟨p.contexts.push (.new cache), caches, p.surroundings⟩ number ≠ some given := by
    unfold uses at unused ⊢
    rw [Array.getElem?_push]
    split
    · exact fun same => other (Option.some.inj same)
    · exact unused
  unfold create
  split
  · rename_i chosen known
    refine new ?_ _
    rintro rfl
    have entries := (Option.filter_eq_some_iff.mp known).2
    simp [empty] at entries
  · exact new (Nat.ne_of_gt here) _

/-- A cache that has no entries and that no context uses stays so, although contexts are given it. -/
theorem empty_cache_stays_unused {given : Nat} (empty : (p.cacheOf given).size = 0)
    (here : given < p.caches.size) (unused : ∀ number, p.uses number ≠ some given) (jobs : List Job) :
    (p.after jobs).cacheOf given = p.cacheOf given ∧
      ∀ number, (p.after jobs).uses number ≠ some given := by
  induction jobs generalizing p with
  | nil => exact ⟨rfl, unused⟩
  | cons job rest ih =>
    have step : (p.perform job).cacheOf given = p.cacheOf given ∧
        ∀ number, (p.perform job).uses number ≠ some given := by
      cases job with
      | create wanted =>
        refine ⟨cacheOf_create here wanted, fun other => ?_⟩
        exact uses_create_empty empty here (unused other) wanted
      | arrange number context host =>
        refine ⟨rfl, fun other => ?_⟩
        exact (uses_arrange p number context host other).trans_ne (unused other)
      | task number task =>
        refine ⟨cacheOf_task (unused number) task, fun other => ?_⟩
        exact (uses_work p number _ other).trans_ne (unused other)
    obtain ⟨same, still⟩ := ih (p := p.perform job) (step.1.symm ▸ empty)
      (Nat.lt_of_lt_of_le here (grows_perform p job).caches) step.2
    exact ⟨same.trans step.1, still⟩

end Process

end ModuleSystem
