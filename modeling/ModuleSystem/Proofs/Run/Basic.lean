import ModuleSystem.Session
import ModuleSystem.Proofs.Action

/-! # What a session goes through

`Run loadings s t` says that a session gets from `s` to `t` inside the given loads, the innermost one
first. A run consists of small steps of the world, of answers of the cache, of the work for the
innermost load, and of whole loads. A load is a run of its own between the start of an entry and its
settlement, so a proof about runs is an induction over nested loads. Files, loaders, builtins and known
addresses stay as they are during a run, hence so do the keys that have a source. -/

namespace ModuleSystem

open ModuleSystem.Action (Flow)

instance : Interrupting Fault := ⟨fun fault => fault.isInterruption = true⟩

instance : Interrupting Raised := ⟨fun raised => raised.fault.isInterruption = true⟩

instance : Remembering Host Fault := ⟨fun _ _ => False⟩

/-- A cache remembers the errors of the loads that have failed. -/
instance {π α ε ρ : Type} : Remembering (Cache.Held π α ε ρ) ε :=
  ⟨fun held error => ∃ key, held.cache.get? key = some (.failed error)⟩

/-- A host later on: it has the same files and knows the same addresses. -/
structure Host.Later (before after : Host) : Prop where
  files : after.files = before.files
  routes : ∀ url, after.network.routes.contains url = before.network.routes.contains url

namespace Host.Later

theorem refl (host : Host) : host.Later host := ⟨rfl, fun _ => rfl⟩

theorem trans {first second third : Host} (early : first.Later second) (late : second.Later third) :
    first.Later third :=
  ⟨late.files.trans early.files, fun url => (late.routes url).trans (early.routes url)⟩

theorem symm {before after : Host} (later : before.Later after) : after.Later before :=
  ⟨later.files.symm, fun url => (later.routes url).symm⟩

theorem write (host : Host) (level : LogLevel) (source text : String) :
    host.Later (host.write level source text) := ⟨rfl, fun _ => rfl⟩

instance : Flow Host.Later where
  refl := refl
  trans := trans

end Host.Later

/-- A world later on: what can be loaded and how has not changed. -/
structure World.Later (before after : World) : Prop where
  host : before.host.Later after.host
  registry : after.registry = before.registry
  builtins : after.builtins = before.builtins
  loaders : ∀ number : Nat,
    (after.mounted[number]?).map Mounted.loader = (before.mounted[number]?).map Mounted.loader
  objects : before.heap.exports.size ≤ after.heap.exports.size

namespace World.Later

theorem refl (world : World) : world.Later world :=
  ⟨.refl _, rfl, rfl, fun _ => rfl, Nat.le_refl _⟩

theorem trans {first second third : World} (early : first.Later second)
    (late : second.Later third) : first.Later third :=
  ⟨early.host.trans late.host, late.registry.trans early.registry,
    late.builtins.trans early.builtins, fun n => (late.loaders n).trans (early.loaders n),
    Nat.le_trans early.objects late.objects⟩

theorem loaderOf {before after : World} (later : before.Later after) (number : Nat) :
    Session.loaderOf after number = Session.loaderOf before number := by
  unfold Session.loaderOf
  rw [later.loaders]

end World.Later

/-- A key has a source if a builtin has its name, or if a registered loader resolves some id to the
rest of the key and can give a text for it. -/
inductive World.HasSource (world : World) : String → Prop
  | builtin {key : String} (defined : world.builtins.contains key = true) : HasSource world key
  | loader {protocol directory : Option String} {id resolved text : String} {number : Nat}
      {early late : Host} {source : Datum}
      (found : world.registry.find protocol id = .ok number)
      (before : world.host.Later early)
      (resolves :
        ((Session.loaderOf world number).resolve id directory early).1 = .value resolved)
      (after : world.host.Later late)
      (loads : ((Session.loaderOf world number).load resolved late).1 = .value source)
      (readable : Session.decodeSource source = .text text) :
      HasSource world (Identifier.canonicalId protocol resolved)

theorem World.Later.hasSource_iff {before after : World} (later : before.Later after) (key : String) :
    after.HasSource key ↔ before.HasSource key := by
  constructor
  · rintro (defined | ⟨found, early, resolves, late, loads, readable⟩)
    · exact .builtin (later.builtins ▸ defined)
    · rw [later.loaderOf] at resolves loads
      exact .loader (later.registry ▸ found) (later.host.trans early) resolves
        (later.host.trans late) loads readable
  · rintro (defined | ⟨found, early, resolves, late, loads, readable⟩)
    · exact .builtin (later.builtins.symm ▸ defined)
    · rw [← later.loaderOf] at resolves loads
      exact .loader (later.registry.symm ▸ found) (later.host.symm.trans early) resolves
        (later.host.symm.trans late) loads readable

/-- A load in progress: its key, and the number of the record of its module. -/
structure Loading where
  key : String
  number : Nat
  deriving DecidableEq, Repr

/-- A small step of a world, which neither starts nor ends a load. -/
inductive World.Step : World → World → Prop
  | host {world : World} {host : Host} (later : world.host.Later host) :
      Step world { world with host }
  | heap {world : World} {heap : Heap} (grown : world.heap.exports.size ≤ heap.exports.size) :
      Step world { world with heap }
  | mounted {world : World} {number : Nat} {f : Mounted → Mounted}
      (same : ∀ mounted, (f mounted).loader = mounted.loader) :
      Step world (world.updateMounted number f)
  | builtinCalls {world : World} {builtinCalls : List Datum} : Step world { world with builtinCalls }
  | scope {world : World} {scope : Option (Ordered Value)} : Step world { world with scope }
  | main {world : World} {main : Option Nat} : Step world { world with main }
  | create {world : World} {id : String} {filename : Option String} {parent : Option Nat} :
      Step world (world.addRecord id filename parent)
  | assign {world : World} {number : Nat} {exports : Value} :
      Step world (world.assignExports number exports)
  | rename {world : World} {number : Nat} {id : Value} : Step world (world.assignId number id)
  | flag {world : World} {number : Nat} {loaded : Value} :
      Step world (world.assignLoaded number loaded)
  | alter {world : World} {number : Nat} {name : String} {value : Value} :
      Step world (world.assignAttribute number name value)
  | make {world : World} {fault : Fault} {cause : Option Raised} :
      Step world (world.makeError fault cause)
  | label {world : World} {number : Nat} {f : ModuleRecord → ModuleRecord}
      (same : ∀ record, (f record).exports = record.exports) :
      Step world (world.updateRecord number f)

/-- An attribute that is assigned is the name of the file, or one that a script adds. -/
theorem ModuleRecord.assign_eq (record : ModuleRecord) (name : String) (value : Value) :
    ∃ filename assigned, record.assign name value = { record with filename, assigned } := by
  unfold assign
  split
  · exact ⟨_, _, rfl⟩
  · exact ⟨_, _, rfl⟩
  · exact ⟨_, _, rfl⟩

/-- What has been added to a record after an assignment was there before, unless it is what is assigned. -/
theorem ModuleRecord.assigned_assign (record : ModuleRecord) {name other : String} {value found : Value}
    (known : (record.assign name value).assigned.get? other = some found) :
    record.assigned.get? other = some found ∨ other = name ∧ found = value := by
  unfold assign at known
  split at known
  · exact .inl known
  · exact .inl known
  · rw [Ordered.get?_set] at known
    split at known
    · cases known
      exact .inr ⟨‹_›, rfl⟩
    · exact .inl known

theorem ModuleRecord.exports_assign (record : ModuleRecord) (name : String) (value : Value) :
    (record.assign name value).exports = record.exports := by
  obtain ⟨_, _, same⟩ := record.assign_eq name value
  rw [same]

theorem ModuleRecord.parent_assign (record : ModuleRecord) (name : String) (value : Value) :
    (record.assign name value).parent = record.parent := by
  obtain ⟨_, _, same⟩ := record.assign_eq name value
  rw [same]

theorem ModuleRecord.children_assign (record : ModuleRecord) (name : String) (value : Value) :
    (record.assign name value).children = record.children := by
  obtain ⟨_, _, same⟩ := record.assign_eq name value
  rw [same]

theorem ModuleRecord.loaded_assign (record : ModuleRecord) (name : String) (value : Value) :
    (record.assign name value).loaded = record.loaded := by
  obtain ⟨_, _, same⟩ := record.assign_eq name value
  rw [same]

namespace World

theorem tell_later (world : World) (happening : Happening) : world.Later (world.tell happening) :=
  ⟨.refl _, rfl, rfl, fun _ => rfl, Nat.le_refl _⟩

theorem updateRecord_later (world : World) (number : Nat) (f : ModuleRecord → ModuleRecord) :
    world.Later (world.updateRecord number f) :=
  ⟨.refl _, rfl, rfl, fun _ => rfl, Nat.le_refl _⟩

theorem attach_later (world : World) (key : String) (number : Nat) :
    world.Later (world.attach key number) := by
  unfold attach
  dsimp only
  split
  · exact ⟨.refl _, rfl, rfl, fun _ => rfl, Nat.le_refl _⟩
  · exact ⟨.refl _, rfl, rfl, fun _ => rfl, Nat.le_refl _⟩

theorem noteEvent_later (world : World) (event : Cache.Event Nat Value Raised) :
    world.Later (Session.noteEvent event world) := by
  unfold Session.noteEvent
  dsimp only
  split
  · exact ⟨.write .., rfl, rfl, fun _ => rfl, Nat.le_refl _⟩
  · exact ⟨.refl _, rfl, rfl, fun _ => rfl, Nat.le_refl _⟩

theorem makeError_exports (world : World) (fault : Fault) (cause : Option Raised) :
    (world.makeError fault cause).heap.exports = world.heap.exports := by
  cases cause <;> rfl

theorem makeError_later (world : World) (fault : Fault) (cause : Option Raised) :
    world.Later (world.makeError fault cause) :=
  ⟨.refl _, rfl, rfl, fun _ => rfl,
    Nat.le_of_eq (congrArg Array.size (makeError_exports world fault cause)).symm⟩

theorem Step.later {before after : World} (step : before.Step after) : before.Later after := by
  cases step with
  | host later => exact ⟨later, rfl, rfl, fun _ => rfl, Nat.le_refl _⟩
  | heap grown => exact ⟨.refl _, rfl, rfl, fun _ => rfl, grown⟩
  | @mounted number f same =>
    refine ⟨.refl _, rfl, rfl, fun other => ?_, Nat.le_refl _⟩
    simp only [updateMounted, Array.getElem?_modify]
    split
    · rw [Option.map_map]
      exact congrArg (fun f => Option.map f _) (funext same)
    · rfl
  | builtinCalls | scope | main => exact ⟨.refl _, rfl, rfl, fun _ => rfl, Nat.le_refl _⟩
  | create =>
    refine ⟨.refl _, rfl, rfl, fun _ => rfl, ?_⟩
    simp only [addRecord, Heap.push, Array.size_push]
    exact Nat.le_succ _
  | assign | rename | flag | alter => exact (updateRecord_later ..).trans (tell_later ..)
  | make => exact makeError_later ..
  | label same => exact updateRecord_later ..

end World

/-- What an event other than the start or the end of a load says about the cache. -/
inductive Cache.Answers {π α ε : Type} (cache : Cache π α ε) : Cache.Event π α ε → Prop
  | hit {key : String} {value : α} (known : cache.get? key = some (.resolved value)) :
      Answers cache (.hit key)
  | failureHit {key : String} {error : ε} (known : cache.get? key = some (.failed error)) :
      Answers cache (.failureHit key)
  | cycle {key : String} {part : π} (known : cache.get? key = some (.pending (some part))) :
      Answers cache (.cycle key part)
  | deadEnd {key : String} (known : cache.get? key = some (.pending none)) :
      Answers cache (.deadEnd key)

namespace World

/-- The world is told of an event of the cache. Of the rest only the host changes, which may log it. -/
def Notes (world : World) (event : Cache.Event Nat Value Raised) (late : World) : Prop :=
  ∃ host, late = { world with host, history := .cache event :: world.history }

namespace Notes

variable {world late : World} {event : Cache.Event Nat Value Raised}

theorem history (notes : world.Notes event late) : late.history = .cache event :: world.history := by
  obtain ⟨host, rfl⟩ := notes
  rfl

theorem records (notes : world.Notes event late) : late.records = world.records := by
  obtain ⟨host, rfl⟩ := notes
  rfl

theorem record (notes : world.Notes event late) (number : Nat) :
    late.record number = world.record number := by
  obtain ⟨host, rfl⟩ := notes
  rfl

theorem modules (notes : world.Notes event late) : late.modules = world.modules := by
  obtain ⟨host, rfl⟩ := notes
  rfl

theorem main (notes : world.Notes event late) : late.main = world.main := by
  obtain ⟨host, rfl⟩ := notes
  rfl

end Notes

end World

namespace Session

theorem history_attach (world : World) (key : String) (number : Nat) :
    (world.attach key number).history = world.history := by
  unfold World.attach
  dsimp only
  split <;> rfl

theorem notes_noteEvent (event : Cache.Event Nat Value Raised) (world : World) :
    world.Notes event (noteEvent event world) := by
  unfold noteEvent
  dsimp only
  split
  · exact ⟨_, rfl⟩
  · exact ⟨_, rfl⟩

theorem notes_answer (event : Cache.Event Nat Value Raised) (s : Session) :
    s.rest.Notes event (s.update (noteEvent event)).rest :=
  notes_noteEvent event s.rest

theorem notes_start (key : String) (part : Option Nat) (s : Session) :
    s.rest.Notes (.load key part) (Cache.start hooks key part s).rest :=
  notes_noteEvent (.load key part) s.rest

/-- A key that is settled tells so. What it tells is no load. -/
theorem notes_settle (key : String) (outcome : Outcome Raised Value) (s : Session) :
    ∃ event, s.rest.Notes event (Cache.settle hooks key (outcome, s)).2.rest ∧
      ∀ other part, event ≠ .load other part := by
  cases outcome with
  | value value => exact ⟨_, notes_noteEvent (.resolve key value) s.rest, nofun⟩
  | error error => exact ⟨_, notes_noteEvent (.fail key error) s.rest, nofun⟩
  | interruption error => exact ⟨_, notes_noteEvent (.interrupt key error) s.rest, nofun⟩

/-- What a session goes through inside some loads, the innermost one first. -/
inductive Run : List Loading → Session → Session → Prop
  | refl (loadings : List Loading) (s : Session) : Run loadings s s
  | step {loadings : List Loading} {s t : Session} {world : World} (run : Run loadings s t)
      (step : t.rest.Step world) : Run loadings s ⟨t.cache, world⟩
  | answer {loadings : List Loading} {s t : Session} {event : Cache.Event Nat Value Raised}
      (run : Run loadings s t) (answers : t.cache.Answers event) :
      Run loadings s (t.update (noteEvent event))
  | lend {loadings : List Loading} {s t : Session} {key : String} {number : Nat}
      (run : Run loadings s t) (pending : t.cache.get? key = some (.pending (some number))) :
      Run loadings s (t.update fun world =>
        world.tell (.lend number (world.record number).exports))
  | work {loading : Loading} {outer : List Loading} {s t : Session} {work : Work}
      (run : Run (loading :: outer) s t)
      (pending : t.cache.get? loading.key = some (.pending (some loading.number))) :
      Run (loading :: outer) s (t.update fun world =>
        world.tell (.work work loading.key loading.number))
  | attach {loading : Loading} {outer : List Loading} {s t : Session}
      (run : Run (loading :: outer) s t) :
      Run (loading :: outer) s (t.update fun world => world.attach loading.key loading.number)
  | enter {loading : Loading} {outer : List Loading} {s t : Session}
      (run : Run (loading :: outer) s t)
      (pending : t.cache.get? loading.key = some (.pending (some loading.number))) :
      Run (loading :: outer) s (t.update fun world =>
        world.tell (.enter loading.number (world.record loading.number).exports))
  | load {loadings : List Loading} {s t u : Session} {key : String} {number object : Nat}
      {outcome : Outcome Raised Value} (run : Run loadings s t)
      (absent : t.cache.get? key = none)
      (sourced : ∀ loading ∈ loadings.head?, t.rest.HasSource loading.key)
      (created : (t.rest.records[number]?).map ModuleRecord.exports = some (.exports object))
      (body : Run (⟨key, number⟩ :: loadings) (Cache.start hooks key (some number) t) u)
      (delivers : ∀ value, outcome = .value value → (u.rest.record number).exports = value)
      (fair : outcome.Fair u) :
      Run loadings s (Cache.settle hooks key (outcome, u)).2

namespace Run

theorem start_later (key : String) (part : Option Nat) (s : Session) :
    s.rest.Later (Cache.start hooks key part s).rest := World.noteEvent_later s.rest (.load key part)

theorem settle_later (key : String) (outcome : Outcome Raised Value) (s : Session) :
    s.rest.Later (Cache.settle hooks key (outcome, s)).2.rest := by
  cases outcome with
  | value value => exact World.noteEvent_later s.rest (.resolve key value)
  | error error => exact World.noteEvent_later s.rest (.fail key error)
  | interruption error => exact World.noteEvent_later s.rest (.interrupt key error)

theorem later {loadings : List Loading} {s t : Session} (run : Run loadings s t) :
    s.rest.Later t.rest := by
  induction run with
  | refl => exact .refl _
  | step _ step ih => exact ih.trans step.later
  | answer _ _ ih => exact ih.trans (World.noteEvent_later ..)
  | lend _ _ ih => exact ih.trans (World.tell_later ..)
  | work _ _ ih => exact ih.trans (World.tell_later ..)
  | attach _ ih => exact ih.trans (World.attach_later ..)
  | enter _ _ ih => exact ih.trans (World.tell_later ..)
  | load _ _ _ _ _ _ _ ih ihBody =>
    exact ((ih.trans (start_later ..)).trans ihBody).trans (settle_later ..)

theorem trans {loadings : List Loading} {s t u : Session} (early : Run loadings s t)
    (late : Run loadings t u) : Run loadings s u := by
  induction late with
  | refl => exact early
  | step _ step ih => exact (ih early).step step
  | answer _ answers ih => exact (ih early).answer answers
  | lend _ pending ih => exact (ih early).lend pending
  | work _ pending ih => exact (ih early).work pending
  | attach _ ih => exact (ih early).attach
  | enter _ pending ih => exact (ih early).enter pending
  | load _ absent sourced created body delivers fair ih _ =>
    exact (ih early).load absent sourced created body delivers fair

instance (loadings : List Loading) : Flow (Run loadings) where
  refl := .refl loadings
  trans := trans

/-- A run leaves every entry as it is that was there before. -/
theorem keeps_entry {loadings : List Loading} {s t : Session} (run : Run loadings s t) {key : String}
    {entry : Cache.Entry Nat Value Raised} (known : s.cache.get? key = some entry) :
    t.cache.get? key = some entry := by
  induction run with
  | refl => exact known
  | step _ _ ih => exact ih known
  | answer _ _ ih => exact ih known
  | lend _ _ ih => exact ih known
  | work _ _ ih => exact ih known
  | attach _ ih => exact ih known
  | enter _ _ ih => exact ih known
  | @load _ _ t u loaded number object outcome _ absent _ _ _ _ _ ih ihBody =>
    have other : key ≠ loaded := Ordered.ne_of_get? absent (ih known)
    rw [Cache.get?_settle, if_neg other]
    exact ihBody ((Cache.get?_start ..).trans ((if_neg other).trans (ih known)))

end Run

end Session

end ModuleSystem
