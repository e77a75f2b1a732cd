import ModuleSystem.Proofs.Walk.Member

/-! # Operations along walks

Every operator and every function of scripts goes along a walk, and gives values that keep only what may be
kept. -/

namespace ModuleSystem

open Value (Reference)

/-! ## Comparisons -/

theorem Incomparable.foreign (problem : Incomparable) : problem.fault.Foreign := by
  cases problem <;> rfl

namespace Value

theorem mem_of_findKeyed? {test : Value → Comparison Bool} {entries : List (Value × Value)}
    {entry : Value × Value} (found : findKeyed? test entries = .ok (some entry)) : entry ∈ entries := by
  induction entries with
  | nil => cases found
  | cons first rest ih =>
    simp only [findKeyed?, bind, Except.bind] at found
    split at found
    · cases found
    · split at found
      · cases found
        exact List.mem_cons_self ..
      · exact List.mem_cons_of_mem _ (ih found)

end Value

namespace Fault

theorem lookup_of_all (accepts : String → Bool) {table : List (Int × String)} {code : Int}
    {kind : String} (all : table.all fun entry => accepts entry.2)
    (found : table.lookup code = some kind) : accepts kind = true := by
  obtain ⟨before, after, rfl, _⟩ := List.lookup_eq_some_iff.mp found
  exact List.all_eq_true.mp all (code, kind) (by simp)

theorem kindIs_kindOfCode (code : Int) : kindIs (kindOfCode code) requireKind = false := by
  unfold kindOfCode
  split
  · rename_i kind found
    have other : (!kindIs kind requireKind) = true :=
      lookup_of_all (fun kind => !kindIs kind requireKind) (by decide) found
    simpa using other
  · rfl

theorem kindOfName_kindOfName (name : String) : kindOfName (kindOfName name) = kindOfName name := by
  unfold kindOfName
  split
  · rfl
  · rfl

/-- An error of a kind that every program knows is not one of the system of modules. -/
theorem foreign_named {kind : String} {count : Nat} (any : takesAny kind count = true)
    (arguments : List Datum) : (named kind arguments).Foreign := by
  have other : kindIs (kindOfName kind) requireKind = false := by
    unfold takesAny isCommonKind at any
    simp only [Bool.and_eq_true, Bool.not_eq_true', kindOfName_kindOfName] at any
    exact any.1.1.1.1.2
  change kindIs (namedKind kind arguments) requireKind = false
  unfold namedKind
  dsimp only
  split
  · split
    · exact kindIs_kindOfCode _
    · exact other
  · exact other

end Fault

namespace World

variable {Q : Reference → Prop} {world : World}

theorem within_lookup {entries : List (Value × Value)} {key value : Value}
    (holds : ∀ entry ∈ entries, entry.1.Within Q ∧ entry.2.Within Q)
    (found : world.lookup key entries = .ok (some value)) : value.Within Q := by
  simp only [lookup, bind, Except.bind] at found
  split at found
  · cases found
  · rename_i entry? found?
    cases entry? with
    | none => cases found
    | some entry =>
      cases found
      exact (holds entry (Value.mem_of_findKeyed? found?)).2

theorem within_insert {key value : Value} (newKey : key.Within Q) (newValue : value.Within Q)
    {entries result : List (Value × Value)} (holds : ∀ entry ∈ entries, entry.1.Within Q ∧ entry.2.Within Q)
    (inserted : world.insert key value entries = .ok result) :
    ∀ entry ∈ result, entry.1.Within Q ∧ entry.2.Within Q := by
  induction entries generalizing result with
  | nil =>
    cases inserted
    simpa using ⟨newKey, newValue⟩
  | cons first rest ih =>
    obtain ⟨old, others⟩ := List.forall_mem_cons.mp holds
    simp only [insert, bind, Except.bind] at inserted
    split at inserted
    · cases inserted
    · split at inserted
      · cases inserted
        exact List.forall_mem_cons.mpr ⟨⟨old.1, newValue⟩, others⟩
      · split at inserted
        · cases inserted
        · rename_i more inner
          cases inserted
          exact List.forall_mem_cons.mpr ⟨old, ih others inner⟩

theorem within_insertAll {new entries result : List (Value × Value)}
    (holds : ∀ entry ∈ entries, entry.1.Within Q ∧ entry.2.Within Q)
    (more : ∀ entry ∈ new, entry.1.Within Q ∧ entry.2.Within Q)
    (inserted : world.insertAll entries new = .ok result) :
    ∀ entry ∈ result, entry.1.Within Q ∧ entry.2.Within Q := by
  induction new generalizing entries with
  | nil =>
    cases inserted
    exact holds
  | cons first rest ih =>
    obtain ⟨one, others⟩ := List.forall_mem_cons.mp more
    simp only [insertAll, bind, Except.bind] at inserted
    split at inserted
    · cases inserted
    · exact ih (within_insert one.1 one.2 holds ‹_›) others inserted

end World

namespace Script

variable {k : Walk} [k.Lawful] {first : Session} {α : Type} {V : Session → α → Prop}

theorem compared_orderly {comparison : Comparison α}
    (holds : ∀ a, comparison = .ok a → ∀ t, k.clean t → k.moved first t → V t a) :
    k.Orderly first V (compared comparison) := by
  unfold compared
  cases comparison with
  | ok a => exact .done (holds a rfl)
  | error problem => exact Walk.raise_orderly (Walk.Lawful.foreign problem.foreign)

/-! ## Containers -/

theorem mark_orderly : k.Orderly first (fun _ _ => True) mark :=
  Walk.world_bind (fun _ _ => rfl) fun _ _ _ =>
    .bind (Walk.change_orderly (fun _ _ => rfl) fun _ _ _ => .mark) fun _ _ _ _ => .idle

theorem newList_orderly {items : List Value} (all : k.All first items) :
    k.Orderly first k.Only (newList items) :=
  .bind mark_orderly fun _ _ moved _ => Walk.give ((Value.within_list _).mpr (moved.all all))

theorem newTuple_orderly {items : List Value} (all : k.All first items) :
    k.Orderly first k.Only (newTuple items) :=
  .bind mark_orderly fun _ _ moved _ => Walk.give ((Value.within_tuple _).mpr (moved.all all))

theorem newDict_orderly {entries : List (Value × Value)} (all : k.Entries first entries) :
    k.Orderly first k.Only (newDict entries) := by
  unfold newDict
  split
  · exact mistake_orderly _
  · refine Walk.world_bind (fun world scope => ?_) fun t _ moved => ?_
    · simp only [World.insertAll_withScope]
    · refine .bind (compared_orderly (V := k.Entries) fun result made u _ later => ?_)
        fun result u later made => ?_
      · exact later.entries (World.within_insertAll (by simp) (moved.entries all) made)
      · exact .bind mark_orderly fun _ _ onward _ =>
          Walk.give ((Value.within_dict _).mpr (onward.entries made))

/-! ## Items -/

theorem itemAt_orderly (type : String) {items : List α}
    (holds : ∀ t, k.moved first t → ∀ item ∈ items, V t item) (key : Value) :
    k.Orderly first V (itemAt type items key) := by
  unfold itemAt
  split
  · exact mistake_orderly _
  · dsimp only
    repeat' split
    all_goals first
      | exact mistake_orderly _
      | exact .done fun s _ moved => holds s moved _ (List.mem_of_getElem? ‹_›)

theorem items?_withScope (world : World) (scope : Option (Ordered Value)) :
    items? { world with scope } = items? world := by
  funext value
  cases value <;> rfl

/-- The items of a list that may be kept may be kept, and so may the children of a record. -/
theorem items?_within {Q : Reference → Prop} {world : World} (holds : world.Within Q) {object : Value}
    (own : object.Within Q) {items : List Value} (found : items? world object = some items) :
    ∀ item ∈ items, item.Within Q := by
  unfold items? at found
  split at found <;> cases found
  · exact (Value.within_list _).mp own
  · rename_i number
    intro item member
    obtain ⟨child, known, rfl⟩ := List.mem_map.mp member
    exact (Value.within_record child).mpr ((holds.records number).children child known)

theorem entryAt_orderly {entries : List (Value × Value)} (all : k.Entries first entries) (key : Value) :
    k.Orderly first k.Only (entryAt entries key) := by
  unfold entryAt
  split
  · exact mistake_orderly _
  · refine Walk.get_bind (fun s scope => ?_) fun t _ moved => ?_
    · rw [Session.datumOf_withScope]
      change (compared (World.lookup { s.rest with scope } key entries) >>= _) = _
      rw [World.lookup_withScope]
    · have found : k.Orderly t (fun u found => ∀ value, found = some value → k.Only u value)
          (compared (t.rest.lookup key entries)) := compared_orderly fun found known u _ later value same =>
        later.within (World.within_lookup (moved.entries all) (known.trans (congrArg _ same)))
      refine .bind found fun found u _ only => ?_
      cases found with
      | some value => exact Walk.give (only value rfl)
      | none => exact mistake_orderly _

theorem item_orderly {object : Value} (only : k.Only first object) (key : Value) :
    k.Orderly first k.Only (item object key) := by
  unfold item
  split
  · exact itemAt_orderly _ (fun _ moved => moved.all ((Value.within_tuple _).mp only)) _
  · exact .bind (itemAt_orderly (V := fun _ _ => True) _ (by simp) _) fun _ _ _ _ => Walk.give (by simp)
  · exact entryAt_orderly ((Value.within_dict _).mp only) key
  · exact unsupported_orderly _
  · exact unsupported_orderly _
  · refine Walk.world_bind (fun world scope => by rw [items?_withScope]) fun t clean moved => ?_
    split
    · have all := items?_within (Walk.Lawful.within clean) (moved.within only) ‹_›
      exact itemAt_orderly _ (fun _ later => later.all all) _
    · exact mistake_orderly _

theorem hashed_orderly (value : Value) {x : SessionAction α} (orderly : k.Orderly first V x) :
    k.Orderly first V (hashed value x) := by
  unfold hashed
  split
  · exact mistake_orderly _
  · exact orderly

theorem foundAmong_orderly (items : List Value) (value : Value) :
    k.Orderly first (fun _ _ => True) (foundAmong items value) :=
  Walk.world_bind (fun world scope => by rw [World.foundAmong_withScope]) fun _ _ _ =>
    compared_orderly fun _ _ _ _ _ => trivial

theorem cacheContains_orderly (key : Value) : k.Orderly first (fun _ _ => True) (cacheContains key) := by
  refine Walk.get_bind (fun _ _ => rfl) fun _ _ _ => ?_
  split
  · exact .idle
  · exact .idle

theorem contains_orderly (item collection : Value) :
    k.Orderly first (fun _ _ => True) (contains item collection) := by
  unfold contains
  split
  · exact foundAmong_orderly _ _
  · exact hashed_orderly _ (foundAmong_orderly _ _)
  · exact hashed_orderly _ (foundAmong_orderly _ _)
  · exact hashed_orderly _ (cacheContains_orderly _)
  · split
    · exact .idle
    · exact mistake_orderly _
  · exact unsupported_orderly _
  · exact unsupported_orderly _
  · refine Walk.world_bind (fun world scope => by rw [items?_withScope]) fun _ _ _ => ?_
    split
    · exact foundAmong_orderly _ _
    · exact mistake_orderly _

theorem length_orderly (value : Value) : k.Orderly first (fun _ _ => True) (length value) := by
  unfold length
  split
  · exact .idle
  · exact .idle
  · exact .idle
  · exact .idle
  · exact .idle
  · exact Walk.get_bind (f := fun s => Action.pure s.cache.size) (fun _ _ => rfl) fun _ _ _ => .idle
  · exact unsupported_orderly _
  · refine Walk.world_bind (fun world scope => by rw [items?_withScope]) fun _ _ _ => ?_
    split
    · exact .idle
    · exact mistake_orderly _

/-! ## Arithmetic -/

theorem toFloat_orderly (number : Number) : k.Orderly first (fun _ _ => True) (toFloat number) := by
  unfold toFloat
  repeat' split
  · exact .idle
  · exact .idle
  · exact Walk.raise_orderly (Walk.Lawful.foreign rfl)

theorem sumOfNumbers_orderly (left right : Value) : k.Orderly first k.Only (sumOfNumbers left right) := by
  unfold sumOfNumbers
  split
  · exact Walk.give (by simp)
  · exact .bind (toFloat_orderly _) fun _ _ _ _ =>
      .bind (toFloat_orderly _) fun _ _ _ _ => Walk.give (by simp)
  · exact mistake_orderly _

theorem sum_orderly {left right : Value} (one : k.Only first left) (other : k.Only first right) :
    k.Orderly first k.Only (sum left right) := by
  unfold sum
  split
  · exact Walk.give (by simp)
  · exact mistake_orderly _
  · exact Walk.give (by simp)
  · exact mistake_orderly _
  · exact newTuple_orderly (List.forall_mem_append.mpr
      ⟨(Value.within_tuple _).mp one, (Value.within_tuple _).mp other⟩)
  · exact mistake_orderly _
  · refine Walk.world_bind (fun world scope => by rw [items?_withScope]) fun t clean moved => ?_
    have holds := Walk.Lawful.within clean
    split
    · exact newList_orderly (List.forall_mem_append.mpr
        ⟨items?_within holds (moved.within one) ‹_›, items?_within holds (moved.within other) ‹_›⟩)
    · exact mistake_orderly _
    · exact sumOfNumbers_orderly _ _

theorem quotientOf_orderly (m n : Int) : k.Orderly first k.Only (quotientOf m n) := by
  unfold quotientOf
  split
  · exact mistake_orderly _
  · dsimp only
    split
    · exact Walk.raise_orderly (Walk.Lawful.foreign rfl)
    · exact Walk.give (by simp)

theorem quotient_orderly (left right : Value) : k.Orderly first k.Only (quotient left right) := by
  unfold quotient
  split
  · exact quotientOf_orderly _ _
  · refine .bind (toFloat_orderly _) fun _ _ _ _ => .bind (toFloat_orderly _) fun _ _ _ _ => ?_
    split
    · exact mistake_orderly _
    · exact Walk.give (by simp)
  · exact mistake_orderly _

theorem negative_orderly (value : Value) : k.Orderly first k.Only (negative value) := by
  unfold negative
  split
  · exact Walk.give (by simp)
  · exact Walk.give (by simp)
  · exact mistake_orderly _

/-! ## Functions -/

theorem wrongCount_orderly (method : String) (parameters : List String) (given : Nat) :
    k.Orderly first V (wrongCount method parameters given) := mistake_orderly _

theorem cacheState_orderly (key : Value) : k.Orderly first k.Only (cacheState key) := by
  unfold cacheState
  split
  · refine Walk.get_bind (fun _ _ => rfl) fun t _ _ => Walk.give ?_
    cases t.cache.state? _ <;> simp
  · split
    · exact mistake_orderly _
    · exact Walk.give (by simp)

theorem cachePeek_orderly (key : Value) : k.Orderly first k.Only (cachePeek key) := by
  refine Walk.get_bind (fun s scope => ?_) fun t clean _ => ?_
  · rw [Session.datumOf_withScope]
    rfl
  · dsimp only
    split
    · split
      · rename_i found
        obtain ⟨entry, known, held⟩ := Option.bind_eq_some_iff.mp found
        cases entry <;> cases held
        exact Walk.give (Walk.Lawful.values clean known)
      · exact Walk.raise_orderly (Walk.Lawful.foreign rfl)
    · split
      · exact mistake_orderly _
      · exact Walk.raise_orderly (Walk.Lawful.foreign rfl)

theorem memberOr_orderly {object default : Value} (only : k.Only first object) (name : String)
    (alternative : k.Only first default) : k.Orderly first k.Only (memberOr object name default) := by
  refine .handle (member_orderly only name) fun raised t moved failed => ?_
  split
  · exact Walk.give (moved.within alternative)
  · exact Walk.raiseAgain_orderly (Walk.Lawful.failed failed)

theorem attributeName_orderly (value : Value) :
    k.Orderly first (fun _ _ => True) (attributeName value) := by
  unfold attributeName
  split
  · exact .idle
  · exact mistake_orderly _

omit [k.Lawful] in
theorem callFunction_orderly [k.Resolving] (function : Function) {arguments : List Value}
    (all : k.All first arguments) : k.Orderly first k.Only (callFunction function arguments) := by
  unfold callFunction
  split
  all_goals first
    | exact mistake_orderly _
    | exact wrongCount_orderly _ _ _
    | exact cacheState_orderly _
    | exact cachePeek_orderly _
    | exact .bind (length_orderly _) fun _ _ _ _ => Walk.give (by simp)
    | exact .bind (attributeName_orderly _) fun _ _ moved _ =>
        member_orderly (moved.within (all _ (by simp))) _
    | exact .bind (attributeName_orderly _) fun _ _ moved _ =>
        memberOr_orderly (moved.within (all _ (by simp))) _ (moved.within (all _ (by simp)))
    | exact Walk.get_bind (fun _ _ => by rw [Session.reprOf_withScope]) fun _ _ _ => Walk.give (by simp)
    | exact Walk.get_bind (fun _ _ => rfl) fun _ _ _ => newList_orderly (by simp [Walk.All])
    | exact .bind (Walk.Resolving.resolve _ _) fun _ _ _ _ => Walk.give (by simp)

/-! ## Kinds and errors -/

theorem typeOf_orderly (value : Value) : k.Orderly first k.Only (typeOf value) := by
  unfold typeOf
  split
  · split
    · exact unsupported_orderly _
    · exact Walk.give (by simp)
  · exact Walk.give (by simp)

theorem textOf_orderly (value : Value) : k.Orderly first k.Only (textOf value) :=
  Walk.get_bind (fun _ _ => by rw [Session.plainOf_withScope]) fun _ _ _ => Walk.give (by simp)

theorem dataOf_orderly (values : List Value) : k.Orderly first (fun _ _ => True) (dataOf values) := by
  refine Walk.get_bind (fun _ _ => by rw [Session.datumOf_withScope]) fun _ _ _ => ?_
  split
  · exact .idle
  · exact unsupported_orderly _

theorem makeOwn_orderly {fault : Fault} {cause : Option Raised} (made : fault.Made cause)
    (holds : ∀ raised, cause = some raised → k.Around first raised) :
    k.Orderly first k.Around (makeOwn fault cause) :=
  Walk.step_orderly (fun world => ⟨world.heap.marks, fault⟩) (fun world => world.makeError fault cause)
    (fun _ => rfl) (fun _ _ => ⟨rfl, rfl⟩)
    (fun _ _ moved => .make made fun raised same => moved.around (holds raised same))
    fun _ clean moved _ => Walk.Lawful.makes clean made fun raised same => moved.around (holds raised same)

theorem makeAbout_orderly (kind parameter : String) {fault : Datum → Fault}
    (made : ∀ datum, (fault datum).Made none) (arguments : List Value) :
    k.Orderly first k.Around (makeAbout kind parameter fault arguments) := by
  unfold makeAbout
  split
  · refine .bind (dataOf_orderly _) fun data _ _ _ => ?_
    split
    · exact makeOwn_orderly (made _) (by rintro _ ⟨⟩)
    · exact unsupported_orderly _
  · exact wrongCount_orderly _ _ _

theorem makeFailure_orderly (kind : String) {fault : Datum → Fault → Fault}
    (made : ∀ datum (cause : Raised), (fault datum cause.fault).Made (some cause)) {arguments : List Value}
    (all : k.All first arguments) : k.Orderly first k.Around (makeFailure kind fault arguments) := by
  unfold makeFailure
  split
  · rename_i cause
    have around : k.Around first cause := (Value.within_error _).mp (all _ (by simp))
    refine .bind (dataOf_orderly _) fun data _ moved _ => ?_
    split
    · refine makeOwn_orderly (made _ _) fun raised same => ?_
      cases same
      exact moved.around around
    · exact unsupported_orderly _
  · exact unsupported_orderly _
  · exact wrongCount_orderly _ _ _

theorem newError_orderly (kind : String) {arguments : List Value} (all : k.All first arguments) :
    k.Orderly first k.Around (newError kind arguments) := by
  unfold newError
  split
  · exact .bind (dataOf_orderly _) fun _ _ _ _ => makeOwn_orderly (.requireError _) (by rintro _ ⟨⟩)
  · exact makeAbout_orderly _ _ .unsupportedProtocol _
  · exact makeAbout_orderly _ _ .noBareLoader _
  · exact makeAbout_orderly _ _ .cyclicRequire _
  · exact makeFailure_orderly _ .loaderFailure all
  · exact makeFailure_orderly _ .evaluationFailure all
  · split
    · rename_i any
      have foreign (data : List Datum) : (Fault.named kind data).Foreign :=
        Fault.foreign_named any data
      exact .bind (dataOf_orderly _) fun data _ _ _ =>
        Walk.mark_orderly fun _ _ _ _ => Walk.Lawful.admits (Walk.Lawful.foreign (foreign data))
    · exact unsupported_orderly _

theorem callKind_orderly (kind : String) {arguments : List Value} (all : k.All first arguments) :
    k.Orderly first k.Only (callKind kind arguments) := by
  unfold callKind
  split
  · exact typeOf_orderly _
  · exact unsupported_orderly _
  · exact mistake_orderly _
  · exact Walk.give (by simp)
  · exact textOf_orderly _
  · split
    · exact .bind (newError_orderly _ all) fun _ _ _ around =>
        Walk.give ((Value.within_error _).mpr around)
    · exact unsupported_orderly _

theorem commonName?_within {Q : Reference → Prop} {name : String} {value : Value}
    (found : commonName? name = some value) : value.Within Q := by
  unfold commonName? at found
  split at found
  · cases found
    simp
  · cases found
    simp
  · cases found
    simp
  · cases found
    simp
  · cases found
    simp
  · split at found <;> cases found
    simp

theorem commonName_orderly (name : String) : k.Orderly first k.Only (commonName name) := by
  unfold commonName
  split
  · exact Walk.give (commonName?_within ‹_›)
  · split
    · exact unsupported_orderly _
    · exact mistake_orderly _

theorem raiseValue_orderly {value : Value} (only : k.Only first value) :
    k.Orderly first V (raiseValue value) := by
  unfold raiseValue
  split
  · exact Walk.raiseAgain_orderly ((Value.within_error _).mp only)
  · split
    · exact .bind (newError_orderly _ (by simp [Walk.All])) fun _ _ _ around => Walk.raiseAgain_orderly around
    · exact mistake_orderly _
  · exact mistake_orderly _

theorem matchesKind_orderly (fault : Fault) (value : Value) :
    k.Orderly first (fun _ _ => True) (matchesKind fault value) := by
  unfold matchesKind
  dsimp only
  repeat' split
  all_goals first
    | exact mistake_orderly _
    | exact unsupported_orderly _
    | exact .idle

end Script

end ModuleSystem
