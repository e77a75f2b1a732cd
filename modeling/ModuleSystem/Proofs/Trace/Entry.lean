import ModuleSystem.Proofs.Trace.Basic

/-! # The entry of a key in a history

In a lawful history the entry of a key becomes pending, and then settled for good, unless its load is
interrupted, which makes the key absent again. So loads and interruptions of a key balance, a key is
absent afterwards if its last load was cut short, and keys stay in the order of their loads. -/

namespace ModuleSystem.Snapshot

/-- What something that happens does to the entry of a key. -/
inductive Turn (key : String) : Happening → Option (Cache.Entry Nat Value Raised) →
    Option (Cache.Entry Nat Value Raised) → Prop
  | stays {happening : Happening} {entry : Option (Cache.Entry Nat Value Raised)}
      (unstarted : happening.started? ≠ some key) (uncut : happening.cutShort? ≠ some key)
      (unsettled : happening.settled? ≠ some key) : Turn key happening entry entry
  | load {number : Nat} :
      Turn key (.cache (.load key (some number))) none (some (.pending (some number)))
  | resolve {number : Nat} {value : Value} :
      Turn key (.cache (.resolve key value)) (some (.pending (some number)))
        (some (.resolved value))
  | fail {number : Nat} {error : Raised} :
      Turn key (.cache (.fail key error)) (some (.pending (some number))) (some (.failed error))
  | interrupt {number : Nat} {error : Raised} (interrupts : error.fault.isInterruption = true) :
      Turn key (.cache (.interrupt key error)) (some (.pending (some number))) none

variable {source : String → Prop} {m : Snapshot} {happening : Happening} {events : List Happening}
  {key : String} {entry : Cache.Entry Nat Value Raised}

/-- Whatever is allowed makes the entry of every key take one of these turns. -/
theorem Allows.turn (allowed : m.Allows source happening) (key : String) :
    Turn key happening (m.cache.get? key) ((m.next happening).cache.get? key) := by
  rcases happening with (_ | _ | _ | _ | _ | _ | _ | _) | _ | _ | _ | _ | _
  case cache.load loaded part =>
    obtain ⟨absent, _, number, _, rfl, _⟩ := allowed
    rw [next, Ordered.get?_set]
    split
    · rename_i same
      rw [same, absent]
      exact .load
    · rename_i other
      exact .stays (by simpa [Happening.started?] using Ne.symm other)
        (by simp [Happening.cutShort?]) (by simp [Happening.settled?])
  case cache.resolve =>
    obtain ⟨number, loads, _⟩ := allowed
    rw [next, Ordered.get?_set]
    split
    · rename_i same
      rw [same, loads.pending]
      exact .resolve
    · rename_i other
      exact .stays (by simp [Happening.started?]) (by simp [Happening.cutShort?])
        (by simpa [Happening.settled?] using Ne.symm other)
  case cache.fail =>
    obtain ⟨⟨number, loads⟩, _⟩ := allowed
    rw [next, Ordered.get?_set]
    split
    · rename_i same
      rw [same, loads.pending]
      exact .fail
    · rename_i other
      exact .stays (by simp [Happening.started?]) (by simp [Happening.cutShort?])
        (by simpa [Happening.settled?] using Ne.symm other)
  case cache.interrupt =>
    obtain ⟨⟨number, loads⟩, interrupts⟩ := allowed
    rw [next, Ordered.get?_erase]
    split
    · rename_i same
      rw [same, loads.pending]
      exact .interrupt interrupts
    · rename_i other
      exact .stays (by simp [Happening.started?])
        (by simpa [Happening.cutShort?] using Ne.symm other) (by simp [Happening.settled?])
  all_goals
    exact .stays (by simp [Happening.started?]) (by simp [Happening.cutShort?])
      (by simp [Happening.settled?])

/-- No work is done for a key whose entry is settled. -/
theorem Allows.worked_ne (allowed : m.Allows source happening)
    (known : m.cache.get? key = some entry) (settled : entry.state ≠ .pending) :
    happening.worked? ≠ some key := by
  rcases happening with _ | _ | _ | _ | _ | _ <;> simp only [Happening.worked?, ne_eq, reduceCtorEq,
    not_false_eq_true, Option.some.injEq]
  rintro rfl
  have pending := known.symm.trans allowed.pending
  cases pending
  exact settled rfl

/-- Only the key of the innermost load is settled or becomes absent again. -/
theorem Allows.ends (allowed : m.Allows source happening)
    (ends : happening.settled? = some key ∨ happening.cutShort? = some key) :
    ∃ number, m.Loads key number := by
  rcases happening with (_ | _ | _ | _ | _ | _ | _ | _) | _ | _ | _ | _ | _ <;>
    simp only [Happening.settled?, Happening.cutShort?, reduceCtorEq, or_self, or_false, false_or,
      Option.some.injEq] at ends
  case cache.resolve =>
    subst ends
    obtain ⟨number, loads, _⟩ := allowed
    exact ⟨number, loads⟩
  case cache.fail =>
    subst ends
    exact allowed.1
  case cache.interrupt =>
    subst ends
    exact allowed.1

theorem Loads.mem_active {number : Nat} (loads : m.Loads key number) :
    key ∈ m.active.map Loading.key :=
  List.mem_map.mpr ⟨_, List.mem_of_mem_head? loads.innermost, rfl⟩

/-- Only the start of its load makes a key one that is being loaded. -/
theorem idle_next (unstarted : happening.started? ≠ some key)
    (idle : key ∉ m.active.map Loading.key) : key ∉ (m.next happening).active.map Loading.key := by
  have outside : key ∉ m.active.tail.map Loading.key := fun member =>
    idle (((List.tail_sublist _).map _).subset member)
  rcases happening with (_ | _ | _ | _ | _ | _ | _ | _) | _ | _ | _ | _ | _
  case cache.load loaded part =>
    cases part with
    | none => exact idle
    | some number =>
      simp only [Happening.started?, ne_eq, Option.some.injEq] at unstarted
      simpa [next, Ne.symm unstarted] using idle
  case cache.resolve => exact outside
  case cache.fail => exact outside
  case cache.interrupt => exact outside
  all_goals exact idle

/-- Keys come last when they are new, and leave only when they are interrupted. -/
theorem Allows.keys_next (allowed : m.Allows source happening) :
    ∃ fresh, (m.next happening).cache.keys =
      m.cache.keys.filter (fun key => happening.cutShort? ≠ some key) ++ fresh := by
  have whole (uncut : happening.cutShort? = none) :
      m.cache.keys.filter (fun key => happening.cutShort? ≠ some key) = m.cache.keys :=
    List.filter_eq_self.mpr (by simp [uncut])
  rcases happening with (_ | _ | _ | _ | _ | _ | _ | _) | _ | _ | _ | _ | _
  case cache.load loaded part =>
    refine ⟨[loaded], ?_⟩
    rw [whole rfl, next, Ordered.keys_set_of_notMem ((m.cache.get?_eq_none_iff loaded).mp allowed.1)]
  case cache.resolve =>
    obtain ⟨number, loads⟩ := allowed.ends (.inl rfl)
    refine ⟨[], ?_⟩
    rw [whole rfl, next, Ordered.keys_set_of_mem (Ordered.mem_keys_of_get? loads.pending), List.append_nil]
  case cache.fail =>
    obtain ⟨number, loads⟩ := allowed.ends (.inl rfl)
    refine ⟨[], ?_⟩
    rw [whole rfl, next, Ordered.keys_set_of_mem (Ordered.mem_keys_of_get? loads.pending), List.append_nil]
  case cache.interrupt =>
    refine ⟨[], ?_⟩
    rw [next, Ordered.keys_erase, List.append_nil]
    exact List.filter_congr fun key _ => by simp [Happening.cutShort?, eq_comm]
  all_goals exact ⟨[], ((List.append_nil _).trans (whole rfl)).symm⟩

/-- No load has failed by an error that interrupts. -/
def Ordinary (m : Snapshot) : Prop :=
  ∀ key error, m.cache.get? key = some (.failed error) → error.fault.isInterruption = false

/-- A load fails only by an error that does not interrupt. -/
theorem Allows.ordinary {error : Raised} (allowed : m.Allows source (.cache (.fail key error)))
    (ordinary : m.Ordinary) : error.fault.isInterruption = false := by
  obtain ⟨_, fresh | ⟨other, known⟩⟩ := allowed
  · exact fresh
  · exact ordinary other error known

theorem Allows.ordinary_next (allowed : m.Allows source happening) (ordinary : m.Ordinary) :
    (m.next happening).Ordinary := by
  intro key error failed
  have turn := allowed.turn key
  rw [failed] at turn
  generalize before : m.cache.get? key = old at turn
  cases turn with
  | stays => exact ordinary key error before
  | fail => exact allowed.ordinary ordinary

/-- The last load of a key, if it has any in a history, is interrupted there. -/
def EndsCutShort (key : String) (events : List Happening) : Prop :=
  ∃ later error earlier,
    events = later ++ .cache (.interrupt key error) :: earlier ∧ key ∉ started later

theorem endsCutShort_cons {earlier : List Happening} (unstarted : happening.started? ≠ some key)
    (uncut : happening.cutShort? ≠ some key) :
    EndsCutShort key (happening :: earlier) ↔ EndsCutShort key earlier := by
  constructor
  · rintro ⟨_ | ⟨_, later⟩, error, rest, split, quiet⟩
    · obtain ⟨rfl, rfl⟩ := List.cons.inj split
      exact absurd rfl uncut
    · obtain ⟨rfl, rfl⟩ := List.cons.inj split
      exact ⟨later, error, rest, rfl, fun member => quiet (mem_started_cons.mpr (.inr member))⟩
  · rintro ⟨later, error, rest, rfl, quiet⟩
    refine ⟨happening :: later, error, rest, rfl, ?_⟩
    simpa only [mem_started_cons, not_or] using ⟨unstarted, quiet⟩

namespace Lawful

/-- A settled entry stays for good. Its key is not loaded again, and no work is done for it. -/
theorem keeps_settled (lawful : m.Lawful source events) (known : m.cache.get? key = some entry)
    (settled : entry.state ≠ .pending) :
    (m.replay events).cache.get? key = some entry ∧ key ∉ started events ∧
      key ∉ cutShort events ∧ key ∉ worked events := by
  induction events with
  | nil => exact ⟨known, by simp, by simp, by simp⟩
  | cons happening earlier ih =>
    obtain ⟨still, unstarted, uncut, unworked⟩ := ih lawful.1
    have turn := lawful.2.turn key
    have idle := lawful.2.worked_ne still settled
    rw [still] at turn
    simp only [replay, mem_started_cons, mem_cutShort_cons, mem_worked_cons, not_or]
    generalize ((m.replay earlier).next happening).cache.get? key = after at turn ⊢
    cases turn with
    | stays newlyUnstarted newlyUncut _ =>
      exact ⟨rfl, ⟨newlyUnstarted, unstarted⟩, ⟨newlyUncut, uncut⟩, ⟨idle, unworked⟩⟩
    | resolve | fail | interrupt => exact absurd rfl settled

/-- The entry of a key that is not being loaded stays, whatever it is, and is not loaded again. -/
theorem keeps_idle (lawful : m.Lawful source events) (known : m.cache.get? key = some entry)
    (idle : key ∉ m.active.map Loading.key) :
    (m.replay events).cache.get? key = some entry ∧ key ∉ started events ∧
      key ∉ cutShort events ∧ key ∉ (m.replay events).active.map Loading.key := by
  induction events with
  | nil => exact ⟨known, by simp, by simp, idle⟩
  | cons happening earlier ih =>
    obtain ⟨still, unstarted, uncut, idle⟩ := ih lawful.1
    have turn := lawful.2.turn key
    have ends (ends : happening.settled? = some key ∨ happening.cutShort? = some key) : False := by
      obtain ⟨number, loads⟩ := lawful.2.ends ends
      exact idle loads.mem_active
    rw [still] at turn
    simp only [mem_started_cons, mem_cutShort_cons, not_or]
    generalize after : ((m.replay earlier).next happening).cache.get? key = new at turn
    cases turn with
    | stays newlyUnstarted newlyUncut _ =>
      exact ⟨after, ⟨newlyUnstarted, unstarted⟩, ⟨newlyUncut, uncut⟩, idle_next newlyUnstarted idle⟩
    | resolve => exact (ends (.inl rfl)).elim
    | fail => exact (ends (.inl rfl)).elim
    | interrupt => exact (ends (.inr rfl)).elim

theorem ordinary (lawful : m.Lawful source events) (ordinary : m.Ordinary) :
    (m.replay events).Ordinary := by
  induction events with
  | nil => exact ordinary
  | cons happening earlier ih => exact lawful.2.ordinary_next (ih lawful.1)

/-- Every load of a key that is not there afterwards has been interrupted, and so have all but one of
the loads of a key that is. -/
theorem count_started (lawful : m.Lawful source events) (key : String) :
    (started events).count key + (m.cache.contains key).toNat =
      (cutShort events).count key + ((m.replay events).cache.contains key).toNat := by
  induction events with
  | nil => rfl
  | cons happening earlier ih =>
    have before := ih lawful.1
    have turn := lawful.2.turn key
    simp only [started, cutShort, List.filterMap_cons, replay, Ordered.contains] at before ⊢
    generalize (m.replay earlier).cache.get? key = old at turn before
    generalize ((m.replay earlier).next happening).cache.get? key = new at turn ⊢
    cases turn with
    | stays unstarted uncut _ =>
      cases starts : happening.started? <;> cases cuts : happening.cutShort? <;> simp_all
    | load => simp [Happening.started?, Happening.cutShort?] at before ⊢; omega
    | resolve => simp [Happening.started?, Happening.cutShort?] at before ⊢; omega
    | fail => simp [Happening.started?, Happening.cutShort?] at before ⊢; omega
    | interrupt => simp [Happening.started?, Happening.cutShort?] at before ⊢; omega

/-- A key that is pending and has not been loaded in between was pending before, with the same part. Without
a part it cannot have been loaded in between. -/
theorem pending_before (lawful : m.Lawful source events) {part : Option Nat}
    (unstarted : part ≠ none → key ∉ started events)
    (pending : (m.replay events).cache.get? key = some (.pending part)) :
    m.cache.get? key = some (.pending part) := by
  induction events with
  | nil => exact pending
  | cons happening earlier ih =>
    have turn := lawful.2.turn key
    simp only [mem_started_cons, not_or] at unstarted
    simp only [replay] at pending
    rw [pending] at turn
    generalize before : (m.replay earlier).cache.get? key = old at turn
    cases turn with
    | stays => exact ih lawful.1 (fun parted => (unstarted parted).2) before
    | load => exact absurd rfl (unstarted (Option.some_ne_none _)).1

/-- An entry that becomes pending in a history has a part. -/
theorem partless_before (lawful : m.Lawful source events)
    (pending : (m.replay events).cache.get? key = some (.pending none)) :
    m.cache.get? key = some (.pending none) :=
  lawful.pending_before (fun parted => absurd rfl parted) pending

/-- So nobody is refused an unfinished module but where the entry had no part from the beginning. -/
theorem partless_of_deadEnd (lawful : m.Lawful source events)
    (refused : .cache (.deadEnd key) ∈ events) : m.cache.get? key = some (.pending none) := by
  obtain ⟨later, earlier, rfl⟩ := List.append_of_mem refused
  exact lawful.of_append.1.1.partless_before lawful.allowed

/-- A key that is absent before is absent afterwards if and only if it has not been loaded, or its last
load has been interrupted. -/
theorem absent_iff (lawful : m.Lawful source events) (absent : m.cache.get? key = none) :
    (m.replay events).cache.get? key = none ↔ key ∉ started events ∨ EndsCutShort key events := by
  induction events with
  | nil => simp [absent, replay]
  | cons happening earlier ih =>
    have before := ih lawful.1
    have turn := lawful.2.turn key
    simp only [replay]
    generalize known : (m.replay earlier).cache.get? key = old at turn before
    generalize ((m.replay earlier).next happening).cache.get? key = new at turn ⊢
    cases turn with
    | stays unstarted uncut _ =>
      rw [before, endsCutShort_cons unstarted uncut, mem_started_cons, or_iff_right unstarted]
    | load =>
      refine iff_of_false (by simp) ?_
      rintro (unstarted | ⟨_ | ⟨_, later⟩, error, rest, split, quiet⟩)
      · exact unstarted (mem_started_cons.mpr (.inl rfl))
      · cases split
      · obtain ⟨rfl, _⟩ := List.cons.inj split
        exact quiet (mem_started_cons.mpr (.inl rfl))
    | resolve =>
      rw [endsCutShort_cons (by simp [Happening.started?]) (by simp [Happening.cutShort?])]
      simpa [Happening.started?] using before
    | fail =>
      rw [endsCutShort_cons (by simp [Happening.started?]) (by simp [Happening.cutShort?])]
      simpa [Happening.started?] using before
    | interrupt => exact iff_of_true rfl (.inr ⟨[], _, earlier, rfl, by simp⟩)

/-- The keys that are never interrupted stay in front, in their order. -/
theorem keys_stay (lawful : m.Lawful source events) :
    m.cache.keys.filter (· ∉ cutShort events) <+: (m.replay events).cache.keys := by
  induction events with
  | nil =>
    rw [List.filter_eq_self.mpr (by simp)]
    exact List.prefix_rfl
  | cons happening earlier ih =>
    obtain ⟨fresh, split⟩ := ih lawful.1
    obtain ⟨newest, step⟩ := lawful.2.keys_next
    rw [replay, step, ← split, List.filter_append, List.filter_filter, List.append_assoc]
    refine ⟨_, congrArg (· ++ _) (List.filter_congr fun key _ => ?_)⟩
    simp [eq_comm]

end Lawful

end ModuleSystem.Snapshot
