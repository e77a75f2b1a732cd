import ModuleSystem.Proofs.Trace.Entry
import ModuleSystem.Proofs.Trace.Run

/-! # What a history settles

While no load goes on a cache is changed by a history in one way only: its entries stay, and behind them come
those of the keys that the history settles. So histories that follow one another add up. -/

namespace ModuleSystem

/-- The entry with which a history settles a key. -/
inductive Settles (events : List Happening) (key : String) : Cache.Entry Nat Value Raised → Prop
  | resolved {value : Value} (told : .cache (.resolve key value) ∈ events) :
      Settles events key (.resolved value)
  | failed {error : Raised} (told : .cache (.fail key error) ∈ events) : Settles events key (.failed error)

namespace Settles

variable {happening : Happening} {events : List Happening} {key : String}
  {entry : Cache.Entry Nat Value Raised}

theorem later (settles : Settles events key entry) : Settles (happening :: events) key entry := by
  cases settles with
  | resolved told => exact .resolved (List.mem_cons_of_mem _ told)
  | failed told => exact .failed (List.mem_cons_of_mem _ told)

/-- What does not settle the key itself settles nothing for it. -/
theorem cons_iff (unsettled : happening.settled? ≠ some key) :
    Settles (happening :: events) key entry ↔ Settles events key entry := by
  refine ⟨fun settles => ?_, later⟩
  cases settles with
  | resolved told =>
    rcases List.mem_cons.mp told with rfl | before
    · exact absurd rfl unsettled
    · exact .resolved before
  | failed told =>
    rcases List.mem_cons.mp told with rfl | before
    · exact absurd rfl unsettled
    · exact .failed before

theorem append_iff {earlier : List Happening} :
    Settles (events ++ earlier) key entry ↔ Settles earlier key entry ∨ Settles events key entry := by
  constructor
  · rintro (told | told)
    · exact (List.mem_append.mp told).symm.imp .resolved .resolved
    · exact (List.mem_append.mp told).symm.imp .failed .failed
  · rintro ((told | told) | (told | told))
    · exact .resolved (List.mem_append_right _ told)
    · exact .failed (List.mem_append_right _ told)
    · exact .resolved (List.mem_append_left _ told)
    · exact .failed (List.mem_append_left _ told)

/-- While nothing settles a key it is settled only by what comes next. -/
theorem cons_iff_of_unsettled (unsettled : ∀ other, ¬ Settles events key other) :
    Settles (happening :: events) key entry ↔ Settles [happening] key entry := by
  rw [← List.singleton_append, append_iff, or_iff_right (unsettled entry)]

theorem resolve_iff {value : Value} (unsettled : ∀ other, ¬ Settles events key other) :
    Settles (.cache (.resolve key value) :: events) key entry ↔ entry = .resolved value := by
  rw [cons_iff_of_unsettled unsettled]
  constructor
  · rintro (told | told)
    · cases List.mem_singleton.mp told
      rfl
    · cases List.mem_singleton.mp told
  · rintro rfl
    exact .resolved (by simp)

theorem fail_iff {error : Raised} (unsettled : ∀ other, ¬ Settles events key other) :
    Settles (.cache (.fail key error) :: events) key entry ↔ entry = .failed error := by
  rw [cons_iff_of_unsettled unsettled]
  constructor
  · rintro (told | told)
    · cases List.mem_singleton.mp told
    · cases List.mem_singleton.mp told
      rfl
  · rintro rfl
    exact .failed (by simp)

/-- A key that a history settles is settled by something in it. -/
theorem exists_settled (settles : Settles events key entry) :
    ∃ happening ∈ events, happening.settled? = some key := by
  cases settles with
  | resolved told => exact ⟨_, told, rfl⟩
  | failed told => exact ⟨_, told, rfl⟩

end Settles

namespace Snapshot

variable {source : String → Prop} {m : Snapshot} {happening : Happening} {events : List Happening}
  {key : String} {entry : Cache.Entry Nat Value Raised}

/-- Only the end of its load makes a key one that is not being loaded any more. -/
theorem Allows.busy_next (allowed : m.Allows source happening) (unsettled : happening.settled? ≠ some key)
    (uncut : happening.cutShort? ≠ some key) (busy : key ∈ m.active.map Loading.key) :
    key ∈ (m.next happening).active.map Loading.key := by
  have outside {other : String} {number : Nat} (loads : m.Loads other number) (ne : key ≠ other) :
      key ∈ m.active.tail.map Loading.key := by
    obtain ⟨outer, inside⟩ := List.head?_eq_some_iff.mp loads.innermost
    rw [inside] at busy ⊢
    exact (List.mem_cons.mp busy).resolve_left ne
  rcases happening with (_ | _ | _ | _ | _ | _ | _ | _) | _ | _ | _ | _ | _
  case cache.load loaded part =>
    rw [next, List.map_append]
    exact List.mem_append_right _ busy
  case cache.resolve =>
    obtain ⟨number, loads⟩ := allowed.ends (.inl rfl)
    exact outside loads fun same => unsettled (congrArg some same.symm)
  case cache.fail =>
    obtain ⟨number, loads⟩ := allowed.ends (.inl rfl)
    exact outside loads fun same => unsettled (congrArg some same.symm)
  case cache.interrupt =>
    obtain ⟨number, loads⟩ := allowed.ends (.inr rfl)
    exact outside loads fun same => uncut (congrArg some same.symm)
  all_goals exact busy

namespace Lawful

/-- A key that is pending and has no load that goes on has been pending before. -/
theorem pending_or_busy (lawful : m.Lawful source events) {part : Option Nat}
    (pending : (m.replay events).cache.get? key = some (.pending part)) :
    m.cache.get? key = some (.pending part) ∨ key ∈ (m.replay events).active.map Loading.key := by
  induction events with
  | nil => exact .inl pending
  | cons happening earlier ih =>
    have turn := lawful.2.turn key
    simp only [replay] at pending ⊢
    rw [pending] at turn
    generalize before : (m.replay earlier).cache.get? key = old at turn
    cases turn with
    | stays unstarted uncut unsettled =>
      exact (ih lawful.1 before).imp_right (lawful.2.busy_next unsettled uncut)
    | load => exact .inr (by simp [next])

/-- A key that is absent before is settled afterwards as the history says. -/
theorem settled_iff (lawful : m.Lawful source events) (absent : m.cache.get? key = none) :
    (m.replay events).cache.get? key = some entry ∧ entry.state ≠ .pending ↔
      Settles events key entry := by
  induction events generalizing entry with
  | nil =>
    refine iff_of_false (by simp [replay, absent]) ?_
    rintro (told | told)
    · cases told
    · cases told
  | cons happening earlier ih =>
    have before (other : Cache.Entry Nat Value Raised) :
        (m.replay earlier).cache.get? key = some other ∧ other.state ≠ .pending ↔
          Settles earlier key other := ih lawful.1
    have turn := lawful.2.turn key
    simp only [replay]
    generalize (m.replay earlier).cache.get? key = old at turn before
    generalize ((m.replay earlier).next happening).cache.get? key = new at turn ⊢
    -- while the key is absent or pending nothing has settled it
    have unsettled (unended : ∀ other, old = some other → other.state = .pending)
        (other : Cache.Entry Nat Value Raised) : ¬ Settles earlier key other := by
      intro settles
      obtain ⟨known, unpending⟩ := (before other).mpr settles
      exact unpending (unended other known)
    cases turn with
    | stays _ _ other =>
      rw [Settles.cons_iff other]
      exact before entry
    | load =>
      rw [Settles.cons_iff (by simp [Happening.settled?])]
      refine iff_of_false ?_ (unsettled (by simp) entry)
      rintro ⟨⟨⟩, unpending⟩
      exact unpending rfl
    | resolve =>
      rw [Settles.resolve_iff (unsettled (by rintro _ ⟨⟩; rfl))]
      constructor
      · rintro ⟨⟨⟩, _⟩
        rfl
      · rintro rfl
        exact ⟨rfl, by simp [Cache.Entry.state]⟩
    | fail =>
      rw [Settles.fail_iff (unsettled (by rintro _ ⟨⟩; rfl))]
      constructor
      · rintro ⟨⟨⟩, _⟩
        rfl
      · rintro rfl
        exact ⟨rfl, by simp [Cache.Entry.state]⟩
    | interrupt =>
      rw [Settles.cons_iff (by simp [Happening.settled?])]
      exact iff_of_false (by simp) (unsettled (by rintro _ ⟨⟩; rfl) entry)

/-- A key that is there and is not being loaded is not settled by a history. -/
theorem not_settles (lawful : m.Lawful source events) (known : m.cache.get? key = some entry)
    (idle : key ∉ m.active.map Loading.key) (other : Cache.Entry Nat Value Raised) :
    ¬ Settles events key other := by
  intro settles
  obtain ⟨happening, member, ends⟩ := settles.exists_settled
  obtain ⟨later, earlier, rfl⟩ := List.append_of_mem member
  obtain ⟨number, loads⟩ := lawful.allowed.ends (.inl ends)
  exact (lawful.of_append.1.1.keeps_idle known idle).2.2.2 loads.mem_active

end Lawful

end Snapshot

/-! ## What a history shows in a cache -/

/-- How a history in which every load has ended shows in a cache: its entries stay, and behind them stand
those of the keys that have been settled. A key that is there is not loaded, and every other load of a key has
been interrupted but the one that has settled it. -/
structure Shows (before after : Cache Nat Value Raised) (events : List Happening) : Prop where
  keys : before.keys <+: after.keys
  entry : ∀ key entry,
    after.get? key = some entry ↔ before.get? key = some entry ∨ Settles events key entry
  unloaded : ∀ key ∈ before.keys, key ∉ started events
  balance : ∀ key, (started events).count key + (before.contains key).toNat =
    (cutShort events).count key + (after.contains key).toNat

namespace Shows

variable {before between after : Cache Nat Value Raised} {earlier events : List Happening}

theorem refl (cache : Cache Nat Value Raised) : Shows cache cache [] where
  keys := List.prefix_rfl
  entry key entry := by
    refine (or_iff_left ?_).symm
    rintro (told | told)
    · cases told
    · cases told
  unloaded _ _ := not_mem_started_nil
  balance _ := rfl

theorem trans (early : Shows before between earlier) (late : Shows between after events) :
    Shows before after (events ++ earlier) where
  keys := early.keys.trans late.keys
  entry key entry := by rw [late.entry, early.entry, Settles.append_iff, or_assoc]
  unloaded key there := by
    have unloaded := late.unloaded key (early.keys.subset there)
    rw [started, List.filterMap_append, List.mem_append, not_or]
    exact ⟨unloaded, early.unloaded key there⟩
  balance key := by
    have early := early.balance key
    have late := late.balance key
    simp only [started, cutShort, List.filterMap_append, List.count_append] at early late ⊢
    omega

/-- A lawful history shows in its cache if no load goes on in the beginning or in the end. -/
theorem of_lawful {source : String → Prop} {m : Snapshot} (lawful : m.Lawful source events)
    (idle : m.active = []) (ended : (m.replay events).active = []) :
    Shows m.cache (m.replay events).cache events where
  keys := by
    have stay := lawful.keys_stay
    rwa [List.filter_eq_self.mpr] at stay
    intro key there
    obtain ⟨entry, known⟩ := Option.isSome_iff_exists.mp
      ((m.cache.contains_iff_mem_keys key).mpr there)
    simpa using (lawful.keeps_idle known (by simp [idle])).2.2.1
  entry key entry := by
    cases known : m.cache.get? key with
    | none =>
      rw [or_iff_right nofun, ← lawful.settled_iff known]
      refine (and_iff_left_of_imp fun there => ?_).symm
      cases entry with
      | pending part =>
        rcases lawful.pending_or_busy there with before | busy
        · rw [known] at before
          cases before
        · rw [ended] at busy
          cases busy
      | resolved => nofun
      | failed => nofun
    | some old =>
      rw [(lawful.keeps_idle known (by simp [idle])).1]
      exact (or_iff_left (lawful.not_settles known (by simp [idle]) entry)).symm
  unloaded key there := by
    obtain ⟨entry, known⟩ := Option.isSome_iff_exists.mp
      ((m.cache.contains_iff_mem_keys key).mpr there)
    exact (lawful.keeps_idle known (by simp [idle])).2.1
  balance := lawful.count_started

theorem of_tells {s t : Session} (tells : Session.Tells [] s t events) : Shows s.cache t.cache events := by
  have shown := of_lawful tells.lawful rfl (congrArg Snapshot.active tells.snapshot).symm
  rwa [← tells.snapshot] at shown

/-- A key is loaded at most once, and once more for every interruption. -/
theorem count_started_le (shown : Shows before after events) (key : String) :
    (started events).count key ≤ 1 + (cutShort events).count key := by
  have balance := shown.balance key
  have most : (after.contains key).toNat ≤ 1 := Bool.toNat_le _
  omega

end Shows

end ModuleSystem
