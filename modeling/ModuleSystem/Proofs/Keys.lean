import ModuleSystem.Proofs.Reachable
import ModuleSystem.Proofs.Untouched

/-! # Keys tell origins

Requests that go to one key ask for one thing: for the builtin of one name, or for one id of one protocol.
Hence what the cache knows about a key has been brought by a load of what is asked for. The exceptions are
clashes: a builtin that is spelled like the key of a module, and a bare name that its loader resolves to
the key of a module with a protocol. -/

namespace ModuleSystem

open Cache (left?)

/-- What has to be done to load an origin. -/
def Origin.Needs : Origin → Work → Prop
  | .builtin _, work => work = .make
  | .loaded _ _ _, work => work = .fetch ∨ work = .evaluate

namespace Session

variable {E : Fault → Prop} {around : Session → Raised → Prop} {W : World → Prop} {s t : Session}

/-- An entry comes from an origin in one of some worlds: its load has been started for the origin, and, if it
has ended, the entry is what the load has left. -/
structure Comes (W : World → Prop) (origin : Origin) (entry : Cache.Entry Nat Value Raised) : Prop where
  offers : ∃ world, W world ∧ world.Offers origin
  brings : entry.state ≠ .pending →
    ∃ world outcome, W world ∧ Brings world origin outcome ∧ left? outcome = some entry

/-- Whatever a cache and a history know about keys comes from origins in one of some worlds. -/
structure Attributed (W : World → Prop) (s : Session) : Prop where
  entries : ∀ key entry, s.cache.get? key = some entry →
    ∃ origin, origin.key = key ∧ Comes W origin entry
  works : ∀ work key number, .work work key number ∈ s.rest.history →
    ∃ world origin, W world ∧ world.Offers origin ∧ origin.key = key ∧ origin.Needs work

namespace Attributed

/-- Nothing is known where nothing has been loaded. -/
theorem of_fresh (cache : s.cache = .empty) (history : s.rest.history = []) : Attributed W s := by
  refine ⟨fun key entry known => ?_, fun work key number member => ?_⟩
  · rw [cache] at known
    cases known
  · rw [history] at member
    cases member

theorem entries_of_step (attributed : Attributed W s) (here : W s.rest) (step : SmallStep around s t)
    (key : String) (entry : Cache.Entry Nat Value Raised) (known : t.cache.get? key = some entry) :
    ∃ origin, origin.key = key ∧ Comes W origin entry := by
  rcases step.cache_cases with same | ⟨origin, number, offers, _, rfl⟩ |
    ⟨origin, number, outcome, _, brings, rfl⟩
  · rw [same] at known
    exact attributed.entries key entry known
  · by_cases own : key = origin.key
    · subst own
      cases (Ordered.get?_set_self ..).symm.trans known
      exact ⟨origin, rfl, ⟨_, here, offers⟩, fun settled => absurd rfl settled⟩
    · exact attributed.entries key entry (((Ordered.get?_set ..).trans (if_neg own)).symm.trans known)
  · rw [Cache.get?_settle] at known
    split at known
    · exact ⟨origin, Eq.symm ‹_›, ⟨_, here, brings.1⟩, fun _ => ⟨_, outcome, here, brings, known⟩⟩
    · exact attributed.entries key entry known

theorem works_of_step (attributed : Attributed W s) (here : W s.rest) (step : SmallStep around s t)
    (work : Work) (key : String) (number : Nat) (member : .work work key number ∈ t.rest.history) :
    ∃ world origin, W world ∧ world.Offers origin ∧ origin.key = key ∧ origin.Needs work := by
  rcases step.history_cases with same | ⟨happening, told, due⟩
  · rw [same] at member
    exact attributed.works work key number member
  · rw [told, List.mem_cons] at member
    rcases member with now | before
    · cases due work key number now.symm with
      | fetch offers => exact ⟨_, _, here, offers, rfl, .inl rfl⟩
      | evaluate offers => exact ⟨_, _, here, offers, rfl, .inr rfl⟩
      | make defined => exact ⟨_, _, here, .builtin defined, rfl, rfl⟩
    · exact attributed.works work key number before

theorem of_steps (attributed : Attributed W s) (steps : SmallSteps around s t)
    (lasts : ∀ world, s.rest.Later world → W world) : Attributed W t := by
  induction steps with
  | refl => exact attributed
  | tail onward step ih =>
    have here := lasts _ (SmallSteps.later onward)
    exact ⟨ih.entries_of_step here step, ih.works_of_step here step⟩

theorem of_reachable (reached : s.Reachable E) : Attributed (fun _ => True) s := by
  induction reached with
  | empty => exact of_fresh rfl rfl
  | set_up _ setUp ih =>
    obtain ⟨entries, works⟩ := ih
    rw [← setUp.cache] at entries
    rw [← setUp.history] at works
    exact ⟨entries, works⟩
  | after reached tasks ih =>
    exact ih.of_steps (after_moved (fun _ => trivial) reached.sound id tasks).small fun _ _ => trivial
  | during _ steps ih => exact ih.of_steps steps fun _ _ => trivial

end Attributed

/-- Two origins are the same in some sense, or one of them clashes with the other. -/
def SameOrClashes (same : Origin → Origin → Prop) (first second : Origin) : Prop :=
  same first second ∨ first.Clashes second ∨ second.Clashes first

/-- Whatever a session knows about the key of an origin comes from an origin that is the same in some
sense, or that clashes with it. -/
structure Owns (W : World → Prop) (same : Origin → Origin → Prop) (s : Session) (origin : Origin) :
    Prop where
  entry : ∀ entry, s.cache.get? origin.key = some entry →
    ∃ other, SameOrClashes same other origin ∧ Comes W other entry
  work : ∀ work number, .work work origin.key number ∈ s.rest.history →
    ∃ world other, W world ∧ world.Offers other ∧ SameOrClashes same other origin ∧ other.Needs work

theorem Attributed.owns {same : Origin → Origin → Prop} (attributed : Attributed W s) {origin : Origin}
    (tells : ∀ world other, W world → world.Offers other → other.key = origin.key →
      SameOrClashes same other origin) : Owns W same s origin where
  entry entry known := by
    obtain ⟨other, key, comes⟩ := attributed.entries _ entry known
    obtain ⟨world, here, offers⟩ := comes.offers
    exact ⟨other, tells world other here offers key, comes⟩
  work work number member := by
    obtain ⟨world, other, here, offers, key, needs⟩ := attributed.works work _ number member
    exact ⟨world, other, here, offers, tells world other here offers key, needs⟩

section

variable {first second : Origin}

theorem sameOrClashes_iff (one : first.WellNamed) (other : second.WellNamed) :
    first.key = second.key ↔ SameOrClashes Origin.Alike first second := Origin.key_eq_iff one other

/-- In one world origins of one key are the same, or they clash. -/
theorem sameOrClashes_eq_iff {world : World} (one : world.Offers first) (other : world.Offers second) :
    first.key = second.key ↔ SameOrClashes Eq first second := by
  rw [sameOrClashes_iff one.wellNamed other.wellNamed]
  constructor
  · exact Or.imp_left (one.eq_of_alike other)
  · refine Or.imp_left ?_
    rintro rfl
    cases first with
    | builtin name => exact .builtin name
    | loaded protocol loader resolved => exact .loaded protocol loader loader resolved

end

/-- A request whose key is absent loads its own origin. -/
theorem dispatch_loads (asMain : Bool) {parent : Option Nat} {raw : Value} {origin : Origin}
    (found : origin? parent raw s = some origin) (absent : s.cache.get? origin.key = none) :
    ∃ t number load, t.cache = s.cache ∧ Loads s.rest require number origin load ∧
      dispatch require asMain parent raw s = Cache.settle hooks origin.key
        (load (Cache.start hooks origin.key (some number) t)) := by
  obtain ⟨t, number, load, asks, loads, reached⟩ := dispatch_loads_asked asMain found absent
  exact ⟨t, number, load, asks.cache, loads, reached⟩

theorem origin?_of_builtin (parent : Option Nat) {name : String} (nonempty : name ≠ "")
    (defined : s.rest.builtins.contains name = true) :
    origin? parent (.text name) s = some (.builtin name) := by
  simp only [origin?, if_neg nonempty, defined, if_true]

theorem clean_of_fresh (cache : s.cache = .empty) : Watch.everything.Clean s where
  visited := trivial
  holds := World.within_of_forall (Watch.near_everything s) _
  raises := ⟨fun _ _ _ _ _ => trivial, fun _ _ _ => ⟨fun _ _ _ => trivial, fun _ _ _ => trivial⟩,
    fun _ _ _ _ _ => trivial⟩
  resolves _ _ _ _ _ _ := trivial
  values _ _ _ := Value.within_of_forall (Watch.near_everything s) _
  errors := by
    rw [cache]
    rintro _ _ ⟨⟩
  parts := by
    rw [cache]
    rintro _ ⟨⟩
  pending _ _ _ := Watch.near_everything s _

/-- Keys tell origins, apart from clashes. Requests that go to one key, in whatever sessions, ask for one
builtin or for one id of one protocol, and for the same loader as long as nothing is registered in
between. The name of a builtin always asks for the builtin, and what is absent is loaded from what is asked
for. Wherever a session gets, what it knows about the key of a request comes from the origin of the
request or from one that clashes with it. -/
theorem keys_tell_origins :
    (∀ s parent raw, target? parent raw s = (origin? parent raw s).map Origin.key) ∧
    (∀ s t parent raw parent' raw' first second, origin? parent raw s = some first →
      origin? parent' raw' t = some second →
      (first.key = second.key ↔ SameOrClashes Origin.Alike first second) ∧
      (s.rest.Later t.rest → (first.key = second.key ↔ SameOrClashes Eq first second))) ∧
    (∀ (s : Session) parent name, name ≠ "" → s.rest.builtins.contains name = true →
      origin? parent (.text name) s = some (.builtin name)) ∧
    (∀ (s : Session) asMain parent raw origin, origin? parent raw s = some origin →
      s.cache.get? origin.key = none → ∃ t number load, t.cache = s.cache ∧
        Loads s.rest require number origin load ∧ dispatch require asMain parent raw s =
          Cache.settle hooks origin.key (load (Cache.start hooks origin.key (some number) t))) ∧
    (∀ (E : Fault → Prop) (s : Session), s.Reachable E → ∀ parent raw origin,
      origin? parent raw s = some origin → Owns (fun _ => True) Origin.Alike s origin) ∧
    ∀ s : Session, s.cache = .empty → s.rest.history = [] →
      (∀ tasks, Steps (fun _ => True) s (s.after tasks)) ∧
      ∀ t, Steps (fun _ => True) s t → ∀ parent raw origin, origin? parent raw t = some origin →
        Owns s.rest.Later Eq t origin := by
  refine ⟨fun s parent raw => target?_eq_map_origin? parent raw s,
    fun s t parent raw parent' raw' first second one other => ⟨?_, ?_⟩,
    fun s parent name => origin?_of_builtin parent,
    fun s asMain parent raw origin => dispatch_loads asMain,
    fun E s reached parent raw origin found => ?_, fun s cache history => ⟨fun tasks => ?_,
      fun t steps parent raw origin found => ?_⟩⟩
  · exact sameOrClashes_iff (origin?_offers one).wellNamed (origin?_offers other).wellNamed
  · exact fun later => sameOrClashes_eq_iff (later.offers (origin?_offers one)) (origin?_offers other)
  · refine (Attributed.of_reachable reached).owns fun world other _ offers key => ?_
    exact (sameOrClashes_iff offers.wellNamed (origin?_offers found).wellNamed).mp key
  · exact after_steps (clean_of_fresh cache) tasks
  · have attributed : Attributed s.rest.Later t :=
      (Attributed.of_fresh cache history).of_steps steps fun _ => id
    refine attributed.owns fun world other here offers key => ?_
    have nowOffers : t.rest.Offers other := steps.later.offers (here.offered offers)
    exact (sameOrClashes_eq_iff nowOffers (origin?_offers found)).mp key

/-- A session with a builtin that is named like the key of a file which is missing, and with a loader for
bare names, which keeps them as they are. -/
def misnamed : Session :=
  ⟨.empty, { World.empty .empty with
    builtins := .ofList [("file:///m.py", ⟨[], [], none, .text "builtin"⟩)]
    registry := ⟨.ofList [("file", some 0)], some 1⟩
    mounted := #[⟨.memory .empty "/" [], 0, []⟩, ⟨.prepared ⟨.empty, .empty, .empty⟩, 0, []⟩] }⟩

/-- A builtin and a file share a key, and so the failure to load the file answers for the builtin. A bare
name and a file share one, too, because the bare name cannot be read as an address. -/
theorem misnamed_builtin_is_shadowed :
    origin? none (.text "/m.py") misnamed = some (.loaded (some "file") 0 "/m.py") ∧
    origin? none (.text "file:///m.py") misnamed = some (.builtin "file:///m.py") ∧
    target? none (.text "/m.py") misnamed = target? none (.text "file:///m.py") misnamed ∧
    (require none (.text "file:///m.py") misnamed).1 = .value (.text "builtin") ∧
    (∃ error, (require none (.text "/m.py") misnamed).1 = .error error ∧
      (require none (.text "file:///m.py") (require none (.text "/m.py") misnamed).2).1 =
        .error error) ∧
    origin? none (.text "/a b.py") misnamed = some (.loaded (some "file") 0 "/a b.py") ∧
    origin? none (.text "file:///a b.py") misnamed = some (.loaded none 1 "file:///a b.py") ∧
    target? none (.text "/a b.py") misnamed = target? none (.text "file:///a b.py") misnamed := by
  refine ⟨?_, ?_, ?_, ?_,
    ⟨⟨1, .loaderFailure (.text "file:///m.py") (.noSuchSource "/m.py") true⟩, ?_, ?_⟩, ?_, ?_, ?_⟩
  all_goals rfl

end Session

end ModuleSystem
