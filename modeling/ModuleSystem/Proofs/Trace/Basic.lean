import ModuleSystem.Proofs.Run.Basic

/-! # Histories of modules

A snapshot is as much of a session as its history determines: the cache, the loads in progress, and the
exports of the records. A history is replayed from a snapshot on, and it is lawful if everything in it is
allowed in the snapshot in which it happens. As in the world, the latest comes first. -/

namespace ModuleSystem

namespace Happening

/-- The key whose load starts. -/
def started? : Happening → Option String
  | .cache (.load key _) => some key
  | _ => none

/-- The key whose load is interrupted. -/
def cutShort? : Happening → Option String
  | .cache (.interrupt key _) => some key
  | _ => none

/-- The key that is settled. -/
def settled? : Happening → Option String
  | .cache (.resolve key _) | .cache (.fail key _) => some key
  | _ => none

/-- The key for which a loader, an evaluator or a builtin is at work. -/
def worked? : Happening → Option String
  | .work _ key _ => some key
  | _ => none

/-- Whether exports are assigned to a record. -/
def assigns (number : Nat) : Happening → Prop
  | .assign other _ => other = number
  | _ => False

end Happening

/-- The keys whose loads a history starts, once for every start. -/
def started (events : List Happening) : List String := events.filterMap Happening.started?

/-- The keys whose loads a history interrupts, once for every interruption. -/
def cutShort (events : List Happening) : List String := events.filterMap Happening.cutShort?

/-- The keys for which a history has work done. -/
def worked (events : List Happening) : List String := events.filterMap Happening.worked?

section

variable {key : String} {happening : Happening} {earlier : List Happening}

@[simp] theorem not_mem_started_nil : key ∉ started [] := List.not_mem_nil

@[simp] theorem not_mem_cutShort_nil : key ∉ cutShort [] := List.not_mem_nil

@[simp] theorem not_mem_worked_nil : key ∉ worked [] := List.not_mem_nil

@[simp] theorem mem_started_cons : key ∈ started (happening :: earlier) ↔
    happening.started? = some key ∨ key ∈ started earlier := by
  simp [started]

@[simp] theorem mem_cutShort_cons : key ∈ cutShort (happening :: earlier) ↔
    happening.cutShort? = some key ∨ key ∈ cutShort earlier := by
  simp [cutShort]

@[simp] theorem mem_worked_cons : key ∈ worked (happening :: earlier) ↔
    happening.worked? = some key ∨ key ∈ worked earlier := by
  simp [worked]

end

/-- What a history determines of a session: the cache, the loads in progress with the innermost one
first, and the exports of the records. -/
structure Snapshot where
  cache : Cache Nat Value Raised
  active : List Loading
  exports : List Value

/-- What is seen of a session inside some loads. -/
def Session.snapshot (s : Session) (active : List Loading) : Snapshot :=
  ⟨s.cache, active, s.rest.records.toList.map ModuleRecord.exports⟩

namespace Snapshot

/-- The exports of a record. -/
def exportsOf (m : Snapshot) (number : Nat) : Value := (m.exports[number]?).getD default

/-- The innermost load is that of a key, whose entry is pending with the number of its record. -/
structure Loads (m : Snapshot) (key : String) (number : Nat) : Prop where
  innermost : m.active.head? = some ⟨key, number⟩
  pending : m.cache.get? key = some (.pending (some number))

/-- What may happen in a snapshot, where some keys have a source. -/
def Allows (source : String → Prop) (m : Snapshot) : Happening → Prop
  | .cache (.hit key) => ∃ value, m.cache.get? key = some (.resolved value)
  | .cache (.failureHit key) => ∃ error, m.cache.get? key = some (.failed error)
  | .cache (.cycle key part) => m.cache.get? key = some (.pending (some part))
  | .cache (.deadEnd key) => m.cache.get? key = some (.pending none)
  | .cache (.load key part) =>
    m.cache.get? key = none ∧ (∀ loading ∈ m.active.head?, source loading.key) ∧
      ∃ number object, part = some number ∧ m.exports[number]? = some (.exports object)
  | .cache (.resolve key value) => ∃ number, m.Loads key number ∧ m.exportsOf number = value
  | .cache (.fail key error) =>
    (∃ number, m.Loads key number) ∧
      (error.fault.isInterruption = false ∨ ∃ other, m.cache.get? other = some (.failed error))
  | .cache (.interrupt key error) =>
    (∃ number, m.Loads key number) ∧ error.fault.isInterruption = true
  | .work _ key number => m.Loads key number
  | .enter number exports => (∃ key, m.Loads key number) ∧ m.exportsOf number = exports
  | .lend number exports =>
    (∃ key, m.cache.get? key = some (.pending (some number))) ∧ m.exportsOf number = exports
  | .create _ | .assign _ _ | .rename _ _ | .flag _ _ | .alter _ _ _ | .make _ => True

/-- The snapshot after something has happened. -/
def next (m : Snapshot) : Happening → Snapshot
  | .cache (.load key part) =>
    { m with
      cache := m.cache.set key (.pending part)
      active := (part.map (Loading.mk key)).toList ++ m.active }
  | .cache (.resolve key value) =>
    { m with cache := m.cache.set key (.resolved value), active := m.active.tail }
  | .cache (.fail key error) =>
    { m with cache := m.cache.set key (.failed error), active := m.active.tail }
  | .cache (.interrupt key _) => { m with cache := m.cache.erase key, active := m.active.tail }
  | .create exports => { m with exports := m.exports ++ [exports] }
  | .assign number exports => { m with exports := m.exports.set number exports }
  | _ => m

/-- The snapshot after a history. -/
def replay (m : Snapshot) : List Happening → Snapshot
  | [] => m
  | happening :: earlier => (m.replay earlier).next happening

/-- Everything in a history is allowed where it happens. -/
def Lawful (source : String → Prop) (m : Snapshot) : List Happening → Prop
  | [] => True
  | happening :: earlier =>
    m.Lawful source earlier ∧ (m.replay earlier).Allows source happening

variable {source : String → Prop} {m : Snapshot}

theorem replay_append (m : Snapshot) (later earlier : List Happening) :
    m.replay (later ++ earlier) = (m.replay earlier).replay later := by
  induction later with
  | nil => rfl
  | cons happening later ih => simp only [List.cons_append, replay, ih]

theorem lawful_append (later earlier : List Happening) :
    m.Lawful source (later ++ earlier) ↔
      m.Lawful source earlier ∧ (m.replay earlier).Lawful source later := by
  induction later with
  | nil => simp [Lawful]
  | cons happening later ih =>
    simp only [List.cons_append, Lawful, ih, replay_append, and_assoc]

theorem Lawful.of_append {later earlier : List Happening}
    (lawful : m.Lawful source (later ++ earlier)) :
    m.Lawful source earlier ∧ (m.replay earlier).Lawful source later :=
  (lawful_append later earlier).mp lawful

theorem Lawful.allowed {later earlier : List Happening} {happening : Happening}
    (lawful : m.Lawful source (later ++ happening :: earlier)) :
    (m.replay earlier).Allows source happening := lawful.of_append.1.2

theorem Allows.mono {other : String → Prop} (sub : ∀ key, source key → other key)
    {happening : Happening} (allowed : m.Allows source happening) : m.Allows other happening := by
  cases happening with
  | cache event =>
    cases event with
    | load =>
      obtain ⟨absent, sourced, created⟩ := allowed
      exact ⟨absent, fun loading top => sub _ (sourced loading top), created⟩
    | _ => exact allowed
  | _ => exact allowed

theorem Lawful.mono {other : String → Prop} (sub : ∀ key, source key → other key)
    {events : List Happening} (lawful : m.Lawful source events) : m.Lawful other events := by
  induction events with
  | nil => trivial
  | cons happening earlier ih => exact ⟨ih lawful.1, lawful.2.mono sub⟩

/-- The loads in progress have keys of their own, which are pending with the numbers of their records.
Each of them but the innermost one has a source. -/
structure Sound (source : String → Prop) (m : Snapshot) : Prop where
  distinct : (m.active.map Loading.key).Nodup
  pending : ∀ loading ∈ m.active,
    m.cache.get? loading.key = some (.pending (some loading.number))
  sourced : ∀ loading ∈ m.active.tail, source loading.key

namespace Sound

theorem of_idle (cache : Cache Nat Value Raised) (exports : List Value) :
    Sound source ⟨cache, [], exports⟩ := ⟨List.nodup_nil, by simp, by simp⟩

theorem load {key : String} {part : Option Nat} (sound : m.Sound source)
    (allowed : m.Allows source (.cache (.load key part))) :
    (m.next (.cache (.load key part))).Sound source := by
  obtain ⟨absent, sourced, number, object, rfl, created⟩ := allowed
  have fresh : ∀ loading ∈ m.active, loading.key ≠ key := by
    rintro loading member rfl
    rw [sound.pending loading member] at absent
    cases absent
  refine ⟨?_, ?_, ?_⟩
  · simp only [next, Option.map_some, Option.toList_some, List.cons_append, List.nil_append,
      List.map_cons, List.nodup_cons, List.mem_map, not_exists, not_and]
    exact ⟨fresh, sound.distinct⟩
  · intro loading member
    simp only [next, Option.map_some, Option.toList_some, List.cons_append, List.nil_append,
      List.mem_cons] at member ⊢
    rw [Ordered.get?_set]
    rcases member with rfl | member
    · rw [if_pos rfl]
    · rw [if_neg (fresh loading member)]
      exact sound.pending loading member
  · intro loading member
    simp only [next, Option.map_some, Option.toList_some, List.cons_append, List.nil_append,
      List.tail_cons] at member
    cases inside : m.active with
    | nil => rw [inside] at member; cases member
    | cons top outer =>
      rw [inside] at member
      rcases List.mem_cons.mp member with rfl | below
      · exact sourced _ (by rw [inside]; rfl)
      · exact sound.sourced loading (by rw [inside]; exact below)

/-- The end of the innermost load leaves the loads around it as they are. -/
theorem leave {key : String} {number : Nat} {cache : Cache Nat Value Raised} (sound : m.Sound source)
    (loads : m.Loads key number) (frame : ∀ other ≠ key, cache.get? other = m.cache.get? other) :
    Sound source ⟨cache, m.active.tail, m.exports⟩ := by
  obtain ⟨outer, inside⟩ : ∃ outer, m.active = ⟨key, number⟩ :: outer :=
    List.head?_eq_some_iff.mp loads.innermost
  have distinct := sound.distinct
  have sourced := sound.sourced
  rw [inside, List.map_cons, List.nodup_cons] at distinct
  rw [inside, List.tail_cons] at sourced
  simp only [inside, List.tail_cons]
  refine ⟨distinct.2, fun loading member => ?_, fun loading member => ?_⟩
  · have other : loading.key ≠ key := fun same =>
      distinct.1 (List.mem_map.mpr ⟨loading, member, same⟩)
    rw [frame _ other]
    exact sound.pending loading (by rw [inside]; exact List.mem_cons_of_mem _ member)
  · exact sourced loading (List.mem_of_mem_tail member)

theorem next {happening : Happening} (sound : m.Sound source)
    (allowed : m.Allows source happening) : (m.next happening).Sound source := by
  rcases happening with (_ | _ | _ | _ | _ | _ | _ | _) | _ | _ | _ | _ | _
  case cache.load => exact sound.load allowed
  case cache.resolve =>
    obtain ⟨number, loads, _⟩ := allowed
    exact sound.leave loads fun other ne => (Ordered.get?_set ..).trans (if_neg ne)
  case cache.fail =>
    obtain ⟨⟨number, loads⟩, _⟩ := allowed
    exact sound.leave loads fun other ne => (Ordered.get?_set ..).trans (if_neg ne)
  case cache.interrupt =>
    obtain ⟨⟨number, loads⟩, _⟩ := allowed
    exact sound.leave loads fun other ne => (Ordered.get?_erase ..).trans (if_neg ne)
  all_goals exact ⟨sound.distinct, sound.pending, sound.sourced⟩

theorem replay {events : List Happening} (sound : m.Sound source)
    (lawful : m.Lawful source events) : (m.replay events).Sound source := by
  induction events with
  | nil => exact sound
  | cons happening earlier ih => exact (ih lawful.1).next lawful.2

end Sound

end Snapshot

end ModuleSystem
