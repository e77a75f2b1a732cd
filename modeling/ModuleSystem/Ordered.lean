/-!
# Tables in order of first insertion

An `Ordered α` maps text keys to values and remembers the order in which its keys were first
inserted. Setting a known key replaces the value in place, so the key keeps its position; erasing a
key closes the gap. The main statements give each operation through the two views `get?` and `keys`.
-/

namespace ModuleSystem

/-- A finite table from text to `α` whose keys are distinct and stay in order of insertion. -/
structure Ordered (α : Type) where
  entries : List (String × α)
  nodup : (entries.map Prod.fst).Nodup

namespace Ordered

variable {α : Type}

/-- The table without entries. -/
def empty : Ordered α := ⟨[], List.nodup_nil⟩

instance : Inhabited (Ordered α) := ⟨empty⟩

instance : EmptyCollection (Ordered α) := ⟨empty⟩

/-- The keys in order of insertion. -/
def keys (table : Ordered α) : List String := table.entries.map Prod.fst

/-- The values in order of insertion of their keys. -/
def values (table : Ordered α) : List α := table.entries.map Prod.snd

/-- The number of entries. -/
def size (table : Ordered α) : Nat := table.entries.length

/-- The first value stored under a key in a list of pairs. -/
def find? (key : String) : List (String × α) → Option α
  | [] => none
  | (k, value) :: rest => if k = key then some value else find? key rest

/-- The value stored under a key. -/
def get? (table : Ordered α) (key : String) : Option α := find? key table.entries

/-- Whether a key has a value. -/
def contains (table : Ordered α) (key : String) : Bool := (table.get? key).isSome

/-- Replaces the value of a known key where it stands, and puts a new key at the end. -/
def place (key : String) (value : α) : List (String × α) → List (String × α)
  | [] => [(key, value)]
  | (k, old) :: rest => if k = key then (k, value) :: rest else (k, old) :: place key value rest

theorem map_fst_place (key : String) (value : α) (entries : List (String × α)) :
    (place key value entries).map Prod.fst =
      if key ∈ entries.map Prod.fst then entries.map Prod.fst
      else entries.map Prod.fst ++ [key] := by
  induction entries with
  | nil => simp [place]
  | cons head rest ih =>
    obtain ⟨k, old⟩ := head
    by_cases same : k = key
    · simp [place, same]
    · have other : ¬ key = k := fun h => same h.symm
      by_cases known : key ∈ rest.map Prod.fst <;>
        simp_all [place]

theorem place_of_notMem {key : String} {value : α} {entries : List (String × α)}
    (fresh : key ∉ entries.map Prod.fst) : place key value entries = entries ++ [(key, value)] := by
  induction entries with
  | nil => rfl
  | cons head rest ih =>
    rw [List.map_cons, List.mem_cons, not_or] at fresh
    simp [place, Ne.symm fresh.1, ih fresh.2]

theorem nodup_place (key : String) (value : α) {entries : List (String × α)}
    (distinct : (entries.map Prod.fst).Nodup) :
    ((place key value entries).map Prod.fst).Nodup := by
  rw [map_fst_place]
  split
  · exact distinct
  · rename_i fresh
    rw [List.nodup_append]
    refine ⟨distinct, by simp, ?_⟩
    intro a member b last
    rw [List.mem_singleton] at last
    subst last
    exact fun h => fresh (h ▸ member)

/-- Stores a value: a known key keeps its position, a new one comes last. -/
def set (table : Ordered α) (key : String) (value : α) : Ordered α :=
  ⟨place key value table.entries, nodup_place key value table.nodup⟩

/-- Removes a key and its value. -/
def erase (table : Ordered α) (key : String) : Ordered α :=
  ⟨table.entries.filter fun entry => entry.1 ≠ key,
    (table.nodup.sublist ((List.filter_sublist).map Prod.fst))⟩

/-- The table of a list of pairs: of equal keys the first gives the place, the last the value. -/
def ofList (pairs : List (String × α)) : Ordered α :=
  pairs.foldl (fun table pair => table.set pair.1 pair.2) empty

theorem find?_place (key other : String) (value : α) (entries : List (String × α)) :
    find? other (place key value entries) =
      if other = key then some value else find? other entries := by
  induction entries with
  | nil =>
    by_cases h : other = key
    · simp [place, find?, h]
    · have : ¬ key = other := fun e => h e.symm
      simp [place, find?, h, this]
  | cons head rest ih =>
    obtain ⟨k, old⟩ := head
    by_cases same : k = key
    · subst same
      by_cases h : other = k
      · simp [place, find?, h]
      · have : ¬ k = other := fun e => h e.symm
        simp [place, find?, h, this]
    · simp only [place, same, if_false, find?, ih]
      by_cases h : k = other
      · subst h
        simp [same]
      · simp [h]

theorem get?_set (table : Ordered α) (key other : String) (value : α) :
    (table.set key value).get? other = if other = key then some value else table.get? other :=
  find?_place key other value table.entries

@[simp] theorem get?_set_self (table : Ordered α) (key : String) (value : α) :
    (table.set key value).get? key = some value := by
  simp [get?_set]

theorem contains_set (table : Ordered α) (key other : String) (value : α) :
    (table.set key value).contains other = (decide (other = key) || table.contains other) := by
  unfold contains
  rw [get?_set]
  by_cases same : other = key <;> simp [same]

theorem keys_set (table : Ordered α) (key : String) (value : α) :
    (table.set key value).keys =
      if key ∈ table.keys then table.keys else table.keys ++ [key] :=
  map_fst_place key value table.entries

theorem keys_set_of_mem {table : Ordered α} {key : String} {value : α} (known : key ∈ table.keys) :
    (table.set key value).keys = table.keys :=
  (keys_set ..).trans (if_pos known)

theorem keys_set_of_notMem {table : Ordered α} {key : String} {value : α} (fresh : key ∉ table.keys) :
    (table.set key value).keys = table.keys ++ [key] :=
  (keys_set ..).trans (if_neg fresh)

theorem mem_keys_set {table : Ordered α} {key other : String} {value : α} :
    other ∈ (table.set key value).keys ↔ other ∈ table.keys ∨ other = key := by
  rw [keys_set]
  split
  · rename_i known
    exact ⟨.inl, fun either => either.elim id fun same => same ▸ known⟩
  · simp

theorem find?_filter_ne (key other : String) (entries : List (String × α)) :
    find? other (entries.filter fun entry => entry.1 ≠ key) =
      if other = key then none else find? other entries := by
  induction entries with
  | nil => simp [find?]
  | cons head rest ih =>
    obtain ⟨k, value⟩ := head
    by_cases same : k = key
    · subst same
      by_cases h : other = k
      · simpa [h] using ih
      · have : ¬ k = other := fun e => h e.symm
        simpa [find?, h, this] using ih
    · by_cases h : k = other
      · subst h
        simp [find?, same]
      · simpa [find?, same, h] using ih

theorem get?_erase (table : Ordered α) (key other : String) :
    (table.erase key).get? other = if other = key then none else table.get? other :=
  find?_filter_ne key other table.entries

theorem keys_erase (table : Ordered α) (key : String) :
    (table.erase key).keys = table.keys.filter (· ≠ key) := by
  simp [keys, erase, List.filter_map, Function.comp_def]

theorem find?_eq_none_iff (key : String) (entries : List (String × α)) :
    find? key entries = none ↔ key ∉ entries.map Prod.fst := by
  induction entries with
  | nil => simp [find?]
  | cons head rest ih =>
    obtain ⟨k, value⟩ := head
    by_cases same : k = key
    · simp [find?, same]
    · have other : ¬ key = k := fun h => same h.symm
      simpa [find?, same, other] using ih

theorem get?_eq_none_iff (table : Ordered α) (key : String) :
    table.get? key = none ↔ key ∉ table.keys :=
  find?_eq_none_iff key table.entries

theorem contains_iff_mem_keys (table : Ordered α) (key : String) :
    table.contains key = true ↔ key ∈ table.keys := by
  rw [contains, Option.isSome_iff_ne_none, ne_eq, get?_eq_none_iff, Decidable.not_not]

theorem mem_keys_of_get? {table : Ordered α} {key : String} {value : α}
    (known : table.get? key = some value) : key ∈ table.keys := by
  refine Decidable.not_not.mp fun missing => ?_
  rw [(get?_eq_none_iff table key).mpr missing] at known
  cases known

/-- A key that has a value is another one than a key that has none. -/
theorem ne_of_get? {table : Ordered α} {key other : String} {value : α}
    (absent : table.get? key = none) (known : table.get? other = some value) : other ≠ key := by
  rintro rfl
  rw [absent] at known
  cases known

theorem mem_entries_of_get? (table : Ordered α) {key : String} {value : α}
    (known : table.get? key = some value) : (key, value) ∈ table.entries := by
  obtain ⟨entries, distinct⟩ := table
  simp only [get?] at known ⊢
  clear distinct
  induction entries with
  | nil => simp [find?] at known
  | cons entry rest ih =>
    obtain ⟨k, other⟩ := entry
    by_cases same : k = key
    · simp only [find?, same, if_true, Option.some.injEq] at known
      simp [same, known]
    · simp only [find?, same, if_false] at known
      exact List.mem_cons_of_mem _ (ih known)

theorem mem_values_of_get? {table : Ordered α} {key : String} {value : α}
    (known : table.get? key = some value) : value ∈ table.values :=
  List.mem_map.mpr ⟨(key, value), mem_entries_of_get? table known, rfl⟩

end Ordered

end ModuleSystem
