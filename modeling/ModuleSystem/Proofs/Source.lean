import Mathlib.Data.Set.Card
import ModuleSystem.Proofs.Run.Host

/-! # Keys that have a source

In every world only finitely many keys have a source, and fewer than the bound on nested loads. A
table has as many ids as entries; the paths that lead anywhere are short, and a short text is one of
finitely many, because its characters are the digits of a number. -/

namespace ModuleSystem

open Set

/-- A text as a number: its characters are the digits, the first one counts least. -/
def Text.code : List Char → Nat
  | [] => 0
  | c :: rest => c.toNat + 1 + 0x110000 * code rest

namespace Text

theorem toNat_lt (c : Char) : c.toNat < 0x110000 := by
  rcases c.valid with small | ⟨_, large⟩
  · exact Nat.lt_trans small (by decide)
  · exact large

theorem code_injective : Function.Injective code := by
  intro first
  induction first with
  | nil => intro second same; cases second <;> simp [code] at same ⊢; omega
  | cons c rest ih =>
    intro second same
    cases second with
    | nil => simp only [code] at same; omega
    | cons d more =>
      simp only [code] at same
      have boundFirst := toNat_lt c
      have boundSecond := toNat_lt d
      have digit : c.toNat = d.toNat := by omega
      have tail : code rest = code more := by omega
      rw [ih tail, Char.toNat_inj.mp digit]

theorem code_lt (chars : List Char) {length : Nat} (short : chars.length ≤ length) :
    code chars < 0x110001 ^ length := by
  induction chars generalizing length with
  | nil => exact Nat.pow_pos (by decide)
  | cons c rest ih =>
    cases length with
    | zero => simp at short
    | succ length =>
      have tail := ih (Nat.le_of_succ_le_succ short)
      have bound := toNat_lt c
      simp only [code, Nat.pow_succ]
      omega

/-- There are only so many texts below a given length. -/
theorem encard_short (length : Nat) :
    {text : String | text.toList.length ≤ length}.encard ≤ (Nat.pow 0x110001 length : Nat) := by
  have mapped : MapsTo (fun text : String => code text.toList)
      {text | text.toList.length ≤ length} (Finset.range (0x110001 ^ length)) := by
    intro text short
    simpa using code_lt _ short
  have injective : Function.Injective fun text : String => code text.toList :=
    fun first second same => String.toList_inj.mp (code_injective same)
  refine (encard_le_encard_of_injOn mapped injective.injOn).trans ?_
  rw [encard_coe_eq_coe_finsetCard, Finset.card_range, Nat.pow_eq]

theorem length_le_encodeUtf8 (chars : List Char) : chars.length ≤ (encodeUtf8 chars).length := by
  induction chars with
  | nil => exact Nat.le_refl _
  | cons c rest ih =>
    have one : 1 ≤ (encodeUtf8Char c).length := by
      unfold encodeUtf8Char
      dsimp only
      split_ifs <;> simp
    simp only [encodeUtf8, List.flatMap_cons, List.length_append, List.length_cons] at ih ⊢
    omega

end Text

namespace Ordered

variable {α : Type}

theorem encard_keys (table : Ordered α) :
    {key | table.contains key = true}.encard ≤ (table.size : Nat) := by
  classical
  have sub : {key | table.contains key = true} ⊆ (table.keys.toFinset : Set String) := by
    intro key known
    simpa using (table.contains_iff_mem_keys key).mp known
  refine (encard_le_encard sub).trans ?_
  rw [encard_coe_eq_coe_finsetCard, Nat.cast_le]
  refine (List.toFinset_card_le _).trans (Nat.le_of_eq ?_)
  simp [keys, size]

end Ordered

namespace Http

theorem attempt_value {settings : Settings} {url text : String} {host : Host}
    (value : (attempt settings url host).1 = .value text) :
    host.network.routes.contains url = true := by
  obtain ⟨_, _, got, value⟩ := Action.bind_value value
  obtain ⟨_, _, sent, value⟩ := Action.bind_value value
  cases got
  cases sent
  cases known : host.network.routes.get? url with
  | some replies => simp [Ordered.contains, known]
  | none =>
    simp only [Network.reply?, known, Option.bind_none] at value
    cases value

theorem attempts_value {settings : Settings} {url text : String} {left failed : Nat} {host : Host}
    (value : (attempts settings url left failed host).1 = .value text) :
    host.network.routes.contains url = true := by
  induction left generalizing failed host with
  | zero => exact attempt_value value
  | succ left ih =>
    simp only [attempts, Action.handle] at value
    split at value
    · rename_i fault after ran
      obtain ⟨_, warned, warns, goesOn⟩ := Action.bind_value value
      obtain ⟨_, _, _, waited, again⟩ := (wait_moves settings failed).bind_value goesOn
      have known := (waited.routes url).symm.trans (ih again)
      cases warns
      exact (((attempt_moves settings url).ended ran).routes url).symm.trans known
    · exact attempt_value value

theorem fetch_value {settings : Datum} {url text : String} {host : Host}
    (value : (fetch settings url host).1 = .value (some text)) :
    host.network.routes.contains url = true := by
  obtain ⟨settings, after, _, moved, value⟩ :=
    (HostAction.ofExcept_moves Fault.coercion (Settings.ofDatum ‹_›)).bind_value value
  split at value
  · cases value
  · obtain ⟨_, _, ran, value⟩ := Action.bind_value value
    exact (moved.routes url).symm.trans (attempts_value (congrArg Prod.fst ran))

end Http

/-- Only so many paths are short enough to lead anywhere. -/
theorem FileTree.encard_paths :
    {path : String | path.toList.length ≤ pathLimit}.encard ≤ (pathBound : Nat) := by
  unfold pathBound
  exact Text.encard_short pathLimit

namespace Loader

/-- The ids for which a loader can give a text. -/
def sources (loader : Loader) (host : Host) : Set String :=
  {id | ∃ late source text, host.Later late ∧ (loader.load id late).1 = .value source ∧
    Session.decodeSource source = .text text}

theorem readText_value {path text : String} {host : Host}
    (value : (readText path host).1 = .value text) :
    path.toList.length ≤ FileTree.pathLimit := by
  obtain ⟨_, content, held⟩ := exists_read_of_readText value
  by_contra long
  have bytes := Text.length_le_encodeUtf8 path.toList
  have problem : ∃ problem, host.files.read path = .error problem := by
    unfold FileTree.read FileTree.find
    split_ifs with empty limit
    · exact ⟨_, rfl⟩
    · exact ⟨_, rfl⟩
    · omega
  obtain ⟨problem, unread⟩ := problem
  rw [unread] at held
  cases held

/-- A loader over a table has the texts of the table only. -/
theorem sources_memory_subset (files : Ordered String) (base : String) (extensions : List String)
    (host : Host) : (Loader.memory files base extensions).sources host ⊆ {id | files.contains id = true} := by
  rintro id ⟨late, source, text, _, value, _⟩
  cases known : files.get? id with
  | some _ => simp [Ordered.contains, known]
  | none =>
    simp only [load, known] at value
    exact absurd value (HostAction.raise_ne_value _ _ _)

/-- A path that is read is not too long. -/
theorem sources_file_subset (base : String) (extensions : List String) (host : Host) :
    (Loader.file base extensions).sources host ⊆ {path | path.toList.length ≤ FileTree.pathLimit} := by
  rintro id ⟨late, source, text, _, value, _⟩
  obtain ⟨_, _, ran, _⟩ := Action.bind_value value
  exact readText_value (congrArg Prod.fst ran)

theorem sources_search_subset (directories extensions : List String) (host : Host) :
    (Loader.search directories extensions).sources host ⊆
      {path | path.toList.length ≤ FileTree.pathLimit} := by
  rintro id ⟨late, source, text, _, value, _⟩
  by_cases absolute : Path.isAbsolute id
  · simp only [load, absolute, if_true] at value
    obtain ⟨_, _, ran, _⟩ := Action.bind_value value
    exact readText_value (congrArg Prod.fst ran)
  · simp only [load, absolute, Bool.false_eq_true, if_false] at value
    exact absurd value (HostAction.raise_ne_value _ _ _)

/-- The network answers at the addresses of its routes only. -/
theorem mapsTo_routes (scheme : String) (settings : Datum) (host : Host) :
    MapsTo (addressOf scheme) ((Loader.http scheme settings).sources host)
      {url | host.network.routes.contains url = true} := by
  rintro id ⟨late, source, text, later, value, readable⟩
  obtain ⟨_, noted, notes, value⟩ := Action.bind_value value
  obtain ⟨fetched, _, fetches, value⟩ := Action.bind_value value
  cases notes
  cases fetched with
  | none => cases value; cases readable
  | some body =>
    have known := Http.fetch_value (congrArg Prod.fst fetches)
    exact (later.routes _).symm.trans known

theorem addressOf_injective (scheme : String) : Function.Injective (addressOf scheme) := fun _ _ same =>
  (String.append_right_inj (scheme ++ "://")).mp same

theorem sources_prepared_subset (answers : Prepared) (host : Host) :
    (Loader.prepared answers).sources host ⊆ {id | answers.sources.contains id = true} := by
  rintro id ⟨late, source, text, _, value, _⟩
  cases failure : answers.errors.get? id with
  | some _ =>
    simp only [load, failure] at value
    exact absurd value (HostAction.raise_ne_value _ _ _)
  | none =>
    cases known : answers.sources.get? id with
    | some _ => simp [Ordered.contains, known]
    | none =>
      simp only [load, failure, known] at value
      exact absurd value (HostAction.raise_ne_value _ _ _)

theorem encard_sources (loader : Loader) (host : Host) :
    (loader.sources host).encard ≤ (loader.sourceBound host : Nat) := by
  cases loader with
  | memory files base extensions =>
    exact (encard_le_encard (sources_memory_subset files base extensions host)).trans files.encard_keys
  | file base extensions =>
    exact (encard_le_encard (sources_file_subset base extensions host)).trans FileTree.encard_paths
  | search directories extensions =>
    exact (encard_le_encard (sources_search_subset directories extensions host)).trans FileTree.encard_paths
  | http scheme settings =>
    exact (encard_le_encard_of_injOn (mapsTo_routes scheme settings host)
      (addressOf_injective scheme).injOn).trans host.network.routes.encard_keys
  | prepared answers =>
    exact (encard_le_encard (sources_prepared_subset answers host)).trans answers.sources.encard_keys

end Loader

namespace World

variable (world : World)

theorem mem_loaderEntries {α : Type} {registry : Registry α} {protocol : Option String} {id : String}
    {number : α} (found : registry.find protocol id = .ok number) :
    (protocol, number) ∈ registry.loaderEntries := by
  unfold Registry.loaderEntries
  cases protocol with
  | none =>
    simp only [Registry.find] at found
    split at found
    · rename_i known
      cases found
      simp [known]
    · cases found
  | some name =>
    simp only [Registry.find] at found
    split at found
    · rename_i known
      cases found
      have entry := Ordered.mem_entries_of_get? _ known
      exact List.mem_append_right _ (List.mem_filterMap.mpr ⟨_, entry, rfl⟩)
    · cases found

/-- The keys that the registered loaders of a list have sources for. -/
def loadableBy (entries : List (Option String × Nat)) : Set String :=
  {key | ∃ entry ∈ entries, key ∈ Identifier.canonicalId entry.1 ''
    (Session.loaderOf world entry.2).sources world.host}

theorem encard_loadableBy (entries : List (Option String × Nat)) :
    (world.loadableBy entries).encard ≤ (Session.sourceTotal world entries : Nat) := by
  induction entries with
  | nil => simp [loadableBy]
  | cons entry rest ih =>
    have split : world.loadableBy (entry :: rest) ⊆ Identifier.canonicalId entry.1 ''
        (Session.loaderOf world entry.2).sources world.host ∪ world.loadableBy rest := by
      rintro key ⟨other, member, image⟩
      rcases List.mem_cons.mp member with rfl | member
      · exact .inl image
      · exact .inr ⟨other, member, image⟩
    have first := (encard_image_le (Identifier.canonicalId entry.1) _).trans
      ((Session.loaderOf world entry.2).encard_sources world.host)
    calc (world.loadableBy (entry :: rest)).encard
        ≤ _ := encard_le_encard split
      _ ≤ _ := encard_union_le _ _
      _ ≤ _ := add_le_add first ih
      _ = _ := by simp [Session.sourceTotal]

theorem encard_hasSource :
    {key | world.HasSource key}.encard ≤ (Session.nestingBound world - 1 : Nat) := by
  have split : {key | world.HasSource key} ⊆
      {key | world.builtins.contains key = true} ∪ world.loadableBy world.registry.loaderEntries := by
    rintro key (defined | ⟨found, _, _, late, loads, readable⟩)
    · exact .inl defined
    · exact .inr ⟨_, mem_loaderEntries found, _, ⟨_, _, _, late, loads, readable⟩, rfl⟩
  calc {key | world.HasSource key}.encard
      ≤ _ := encard_le_encard split
    _ ≤ _ := encard_union_le _ _
    _ ≤ _ := add_le_add world.builtins.encard_keys (world.encard_loadableBy _)
    _ = _ := by simp [Session.nestingBound]

/-- Only finitely many keys have a source, and fewer than loads may be nested. -/
theorem finite_hasSource : {key | world.HasSource key}.Finite :=
  finite_of_encard_le_coe world.encard_hasSource

theorem ncard_hasSource : {key | world.HasSource key}.ncard < Session.nestingBound world := by
  have bound := (encard_le_coe_iff_finite_ncard_le.mp world.encard_hasSource).2
  have positive : 0 < Session.nestingBound world := Nat.succ_pos _
  omega

end World

end ModuleSystem
