import ModuleSystem.Proofs.Address
import ModuleSystem.Proofs.Agreement
import ModuleSystem.Proofs.FileKeys

/-! # Keys as identifiers

The key of a request is a text, and a program can ask for it in turn. In a session that is created from
settings and has no builtins this leads to where the first request went as long as the key is read as the
protocol and the id that it is made of, and the id is resolved to itself. Keys of the web always do so, keys
of files if their paths can stand in an address, and keys of bare names if they are not local paths. -/

namespace ModuleSystem

open ModuleSystem.Path (NormalPath)
open Identifier (canonicalId classify fileProtocol isAddress isLocal IsAddressed)

theorem Path.isAbsolute_of_mem_map {workingDirectory : String}
    (rooted : isAbsolute workingDirectory = true) {paths : List String} :
    ∀ path ∈ paths.map (absolute workingDirectory), isAbsolute path = true := by
  intro path member
  obtain ⟨path, _, rfl⟩ := List.mem_map.mp member
  exact isAbsolute_absolute rooted path

theorem Path.locate_of_absolute {path : String} (absolute : isAbsolute path = true) (base : String) :
    locate path base = normalize path :=
  congrArg String.ofList (if_pos (of_decide_eq_true absolute))

/-! ## Resolved ids that are resolved again -/

namespace Probe

variable {tree : FileTree} {extensions : List String}

/-- A file that has been found is found again under its own path, and what has not been found is not found
when it is asked for again. -/
theorem find?_getD_again (probe : Probe) (extensions : List String) (path : String) :
    (probe.find? extensions ((probe.find? extensions path).getD path)).getD
      ((probe.find? extensions path).getD path) = (probe.find? extensions path).getD path := by
  cases hit : probe.find? extensions path with
  | none => simp [hit]
  | some found => simp [find?, isFile_of_find? hit]

theorem isAbsolute_of_find? {probe : Probe} {path found : String}
    (absolute : Path.isAbsolute path = true) (hit : probe.find? extensions path = some found) :
    Path.isAbsolute found = true := by
  unfold find? at hit
  split at hit
  · cases hit
    exact absolute
  · split at hit
    · obtain ⟨extension, _, rfl⟩ := List.mem_map.mp (List.mem_of_find?_eq_some hit)
      exact Path.isAbsolute_join absolute _
    · split at hit
      · obtain ⟨extension, _, rfl⟩ := List.mem_map.mp (List.mem_of_find?_eq_some hit)
        have slash : path.toList.head? = some '/' := of_decide_eq_true absolute
        exact decide_eq_true (by simp [slash])
      · cases hit

end Probe

namespace Loader

variable {tree : FileTree} {extensions directories : List String} {host : Host} {resolved : String}

/-- A path that is asked for again is resolved to itself if it is normal: what is not normal can only have
been found, and its normal form is found first. -/
theorem resolve_file_again (base : String) {path : String} (directory : Option String)
    (whence : resolved = ((Probe.ofTree host.files).find? extensions path).getD path)
    (absolute : Path.isAbsolute resolved = true) :
    ((Loader.file base extensions).resolve resolved directory host).1 = .value resolved ↔
      Path.normalize resolved = resolved := by
  rw [resolve_file, pathOf, Path.locate_of_absolute absolute, Outcome.value.injEq]
  constructor
  · intro again
    cases hit : (Probe.ofTree host.files).find? extensions (Path.normalize resolved) with
    | none => rwa [hit] at again
    | some found =>
      rw [hit, Option.getD_some] at again
      subst again
      have file : host.files.isFile found = true := Probe.isFile_of_find? hit
      rw [Probe.find?_of_isFile (FileTree.isFile_normalize absolute file)] at hit
      exact Option.some.inj hit
  · intro normal
    rw [normal, whence]
    exact Probe.find?_getD_again _ _ _

theorem findBelow?_found (rooted : ∀ directory ∈ directories, Path.isAbsolute directory = true)
    {name found : String} (hit : findBelow? (Probe.ofTree tree) extensions name directories = some found) :
    Path.isAbsolute found = true ∧ tree.isFile found = true := by
  obtain ⟨path, probed⟩ := exists_path_of_findBelow? rooted hit
  exact ⟨Probe.isAbsolute_of_find? path.isAbsolute_text probed, Probe.isFile_of_find? probed⟩

/-- A bare name that is asked for again is resolved to itself, unless it is the path of a file in another
form than the normal one. -/
theorem resolve_search_again (directory : Option String) (some_directory : directories ≠ [])
    (rooted : ∀ directory ∈ directories, Path.isAbsolute directory = true) {id : String}
    (whence : resolved = (findBelow? (Probe.ofTree host.files) extensions id directories).getD id) :
    ((Loader.search directories extensions).resolve resolved directory host).1 = .value resolved ↔
      (Path.isAbsolute resolved = true → host.files.isFile resolved = true →
        Path.normalize resolved = resolved) := by
  rw [resolve_search, Outcome.value.injEq]
  constructor
  · intro again absolute file
    rwa [findBelow?_of_isFile some_directory absolute file] at again
  · intro settled
    cases hit : findBelow? (Probe.ofTree host.files) extensions id directories with
    | none =>
      rw [hit, Option.getD_none] at whence
      rw [whence, hit, Option.getD_none]
    | some found =>
      rw [hit, Option.getD_some] at whence
      subst whence
      obtain ⟨absolute, file⟩ := findBelow?_found rooted hit
      rw [findBelow?_of_isFile some_directory absolute file]
      exact settled absolute file

end Loader

/-! ## Keys that lead back -/

/-- A resolved id is resolved to itself when it is asked for again: it is a normal path if it belongs to the
file protocol or if it is a bare name for a file. -/
def Origin.IsSettled (tree : FileTree) : Origin → Prop
  | .builtin _ => True
  | .loaded none _ resolved =>
    Path.isAbsolute resolved = true → tree.isFile resolved = true → Path.normalize resolved = resolved
  | .loaded (some protocol) _ resolved => protocol = fileProtocol → Path.normalize resolved = resolved

/-- The key of an origin leads back to it. Keys of the web always do; a path of the file protocol has to be
a normal one that can stand in an address; and a bare name must not be a local path, and it has to be in
normal form if it is the path of a file. -/
def Origin.LeadsBack (tree : FileTree) : Origin → Prop
  | .builtin _ => True
  | .loaded none _ resolved => isLocal resolved = false ∧
    (Path.isAbsolute resolved = true → tree.isFile resolved = true → Path.normalize resolved = resolved)
  | .loaded (some protocol) _ resolved =>
    protocol = fileProtocol → ∃ path : NormalPath, resolved = path.text ∧ IsAddressed path

namespace Session

section

variable {settings : Settings} {world : World} {protocol : Option String} {loader : Nat}
  {resolved : String}

theorem Follows.later (follows : Follows settings world) {after : World} (later : world.Later after) :
    Follows settings after := by
  intro protocol id number found
  rw [later.registry] at found
  obtain ⟨inside, served⟩ := follows protocol id number found
  rw [later.loaderOf, later.host.files]
  refine ⟨?_, served⟩
  have same := later.loaders number
  rw [Array.getElem?_eq_getElem inside, Option.map_some] at same
  obtain ⟨mounted, known, _⟩ := Option.map_eq_some_iff.mp same
  exact (Array.getElem?_eq_some_iff.mp known).1

/-- A loader serves one protocol. -/
theorem expected?_inj {workingDirectory : String} {first second : Option String} {loader : Loader}
    (one : expected? workingDirectory settings first = some loader)
    (other : expected? workingDirectory settings second = some loader) : first = second := by
  have kinds (protocol : Option String)
      (asked : expected? workingDirectory settings protocol = some loader) :
      (protocol = none ∧ ∃ directories extensions, loader = .search directories extensions) ∨
      (protocol = some fileProtocol ∧ ∃ base extensions, loader = .file base extensions) ∨
      ∃ name, protocol = some name ∧ ∃ settings, loader = .http name settings := by
    cases protocol with
    | none =>
      obtain ⟨_, same⟩ := Option.ite_none_left_eq_some.mp asked
      exact .inl ⟨rfl, _, _, (Option.some.inj same).symm⟩
    | some name =>
      simp only [expected?, loaderFor?] at asked
      split at asked
      · rename_i same
        exact .inr (.inl ⟨congrArg some same, _, _, (Option.some.inj asked).symm⟩)
      · obtain ⟨_, same⟩ := Option.ite_none_right_eq_some.mp asked
        exact .inr (.inr ⟨name, rfl, _, (Option.some.inj same).symm⟩)
  rcases kinds first one with ⟨rfl, _, _, rfl⟩ | ⟨rfl, _, _, rfl⟩ | ⟨name, rfl, _, rfl⟩ <;>
    rcases kinds second other with ⟨rfl, _, _, same⟩ | ⟨rfl, _, _, same⟩ | ⟨name', rfl, _, same⟩ <;>
    cases same <;> rfl

/-- The file protocol resolves an id to what is found for an absolute path, or else to that path. -/
theorem Follows.file_whence (follows : Follows settings world)
    (rooted : Path.isAbsolute world.host.files.workingDirectory = true)
    (offers : world.Offers (.loaded (some fileProtocol) loader resolved)) :
    ∃ path : NormalPath, resolved =
      ((Probe.ofTree world.host.files).find? settings.extensions path.text).getD path.text := by
  obtain ⟨id, directory, early, seen, before, resolves⟩ := offers.resolves
  rw [follows.file_loader offers] at resolves
  rw [← before.files]
  exact Loader.ofBase_whence rooted seen resolves

theorem Follows.file_absolute (follows : Follows settings world)
    (rooted : Path.isAbsolute world.host.files.workingDirectory = true)
    (offers : world.Offers (.loaded (some fileProtocol) loader resolved)) :
    Path.isAbsolute resolved = true := by
  obtain ⟨path, whence⟩ := follows.file_whence rooted offers
  cases hit : (Probe.ofTree world.host.files).find? settings.extensions path.text with
  | none =>
    rw [whence, hit]
    exact path.isAbsolute_text
  | some found =>
    rw [whence, hit]
    exact Probe.isAbsolute_of_find? path.isAbsolute_text hit

/-- A resolved id that is asked for again is resolved to itself as long as it is settled. -/
theorem Follows.resolves_again_iff (follows : Follows settings world)
    (rooted : Path.isAbsolute world.host.files.workingDirectory = true)
    (offers : world.Offers (.loaded protocol loader resolved)) {host : Host}
    (later : world.host.Later host) (directory : Option String) :
    ((loaderOf world loader).resolve resolved directory host).1 = .value resolved ↔
      Origin.IsSettled world.host.files (.loaded protocol loader resolved) := by
  cases protocol with
  | none =>
    obtain ⟨some_path, same⟩ := follows.bare_loader offers
    obtain ⟨id, _, early, _, before, resolves⟩ := offers.resolves
    have files : early.files = host.files := before.files.trans later.files.symm
    rw [same, Loader.ofSearchPath, Loader.resolve_search, files] at resolves
    rw [same, Loader.ofSearchPath, Loader.resolve_search_again directory (by simpa using some_path)
      (Path.isAbsolute_of_mem_map rooted) (Outcome.value.inj resolves).symm, later.files]
    rfl
  | some name =>
    by_cases served : name = fileProtocol
    · subst served
      obtain ⟨path, whence⟩ := follows.file_whence rooted offers
      rw [← later.files] at whence
      rw [follows.file_loader offers, Loader.ofBase, Loader.resolve_file_again _ directory whence
        (follows.file_absolute rooted offers)]
      exact ⟨fun normal _ => normal, fun normal => normal rfl⟩
    · have asked := follows.loader offers
      simp only [expected?, loaderFor?, if_neg served] at asked
      obtain ⟨_, same⟩ := Option.ite_none_right_eq_some.mp asked
      rw [← Option.some.inj same]
      exact ⟨fun _ file => absurd file served, fun _ => rfl⟩

/-- Nothing but an id that can stand in an address is resolved for the web. -/
theorem Follows.web_address (follows : Follows settings world) {name : String}
    (offers : world.Offers (.loaded (some name) loader resolved)) (other : name ≠ fileProtocol) :
    isAddress resolved.toList = true := by
  have asked := follows.loader offers
  simp only [expected?, loaderFor?, if_neg other] at asked
  obtain ⟨_, same⟩ := Option.ite_none_right_eq_some.mp asked
  generalize kind : some name = protocol at offers
  cases offers with
  | loaded _ _ _ resolves =>
    rw [← Option.some.inj same] at resolves
    cases resolves
    exact Identifier.isAddress_of_classify kind.symm other

/-- A bare name is read as a bare name again unless it is a local path. -/
theorem Follows.bare_again (follows : Follows settings world)
    (rooted : Path.isAbsolute world.host.files.workingDirectory = true)
    (offers : world.Offers (.loaded none loader resolved)) :
    (classify resolved).protocol = none ↔ isLocal resolved = false := by
  obtain ⟨_, same⟩ := follows.bare_loader offers
  generalize kind : (none : Option String) = protocol at offers
  cases offers with
  | @loaded raw _ directory _ early _ _ _ resolves =>
    rw [same, Loader.ofSearchPath, Loader.resolve_search] at resolves
    cases hit : Loader.findBelow? (Probe.ofTree early.files) settings.extensions (classify raw).id
        (settings.modulePaths.map (Path.absolute world.host.files.workingDirectory)) with
    | none =>
      rw [hit] at resolves
      cases resolves
      obtain ⟨kept, foreign⟩ := Identifier.classify_bare kind.symm
      rw [Option.getD_none, kept]
      exact ⟨fun _ => foreign, fun _ => rfl⟩
    | some found =>
      rw [hit] at resolves
      cases resolves
      rw [← kind]
      have absolute := (Loader.findBelow?_found (Path.isAbsolute_of_mem_map rooted) hit).1
      exact Identifier.classify_of_slash (of_decide_eq_true absolute)

/-- The key of an origin leads back to it just if it is read as the protocol that it is made of and the id
is settled. -/
theorem Follows.leadsBack_iff (follows : Follows settings world)
    (rooted : Path.isAbsolute world.host.files.workingDirectory = true)
    (offers : world.Offers (.loaded protocol loader resolved)) :
    Origin.LeadsBack world.host.files (.loaded protocol loader resolved) ↔
      (classify (canonicalId protocol resolved)).protocol = protocol ∧
      Origin.IsSettled world.host.files (.loaded protocol loader resolved) := by
  cases protocol with
  | none => exact and_congr_left fun _ => (follows.bare_again rooted offers).symm
  | some name =>
    have named : (classify (canonicalId (some name) resolved)).protocol = some name ↔
        isAddress resolved.toList = true := by
      rw [Identifier.classify_canonicalId (offers.wellNamed name rfl)]
      cases isAddress resolved.toList <;> simp
    rw [named]
    by_cases served : name = fileProtocol
    · subst served
      constructor
      · intro leads
        obtain ⟨path, rfl, addressed⟩ := leads rfl
        rw [NormalPath.toList_text, Identifier.isAddress_chars_iff]
        exact ⟨addressed, fun _ => path.normalize_text⟩
      · rintro ⟨addressed, settled⟩ _
        obtain ⟨path, same, _⟩ := Path.exists_normalize (follows.file_absolute rooted offers)
        rw [settled rfl] at same
        subst same
        rw [NormalPath.toList_text, Identifier.isAddress_chars_iff] at addressed
        exact ⟨path, rfl, addressed⟩
    · exact ⟨fun _ => ⟨follows.web_address offers served, fun file => absurd file served⟩,
        fun _ file => absurd file served⟩

/-- A key that is read as the protocol that it is made of is read as that protocol and the resolved id. -/
theorem id_of_classify_key (offers : world.Offers (.loaded protocol loader resolved))
    (named : (classify (canonicalId protocol resolved)).protocol = protocol) :
    (classify (canonicalId protocol resolved)).id = resolved := by
  cases protocol with
  | none => exact (Identifier.classify_bare named).1
  | some name =>
    rw [Identifier.classify_canonicalId (offers.wellNamed name rfl)] at named ⊢
    cases addressed : isAddress resolved.toList with
    | true => rfl
    | false => simp [addressed] at named

end

section

variable {settings : Settings} {host : Host} {s t : Session}

/-- Whether a protocol has a loader does not depend on the id. -/
theorem find_any_id {registry : Registry Nat} {protocol : Option String} {id : String} {loader : Nat}
    (found : registry.find protocol id = .ok loader) (other : String) :
    registry.find protocol other = .ok loader := by
  cases protocol with
  | none =>
    simp only [Registry.find] at found ⊢
    cases bare : registry.bare with
    | none => simp [bare] at found
    | some loader => simpa [bare] using found
  | some name => exact found

/-- The key of a destination that a world offers is resolved to the destination just if it leads back. -/
theorem resolve_key_iff (follows : Follows settings t.rest)
    (rooted : Path.isAbsolute t.rest.host.files.workingDirectory = true) {protocol : Option String}
    {destination : Destination} (key : destination.key = canonicalId protocol destination.resolved)
    (filename : destination.filename = filenameOf protocol destination.resolved destination.key)
    (offers : t.rest.Offers (.loaded protocol destination.loader destination.resolved))
    (parent : Option Nat) :
    (resolve (.text destination.key) parent t).1 = .value destination ↔
      Origin.LeadsBack t.rest.host.files
        (.loaded protocol destination.loader destination.resolved) := by
  obtain ⟨loader, resolved, key, filename⟩ := destination
  dsimp only at *
  subst key filename
  obtain ⟨_, found⟩ := offers.found
  -- asked for under its protocol the key is resolved as the resolved id is
  have again (named : (classify (canonicalId protocol resolved)).protocol = protocol) :
      (resolve (.text (canonicalId protocol resolved)) parent t).1 = .value ⟨loader, resolved,
        canonicalId protocol resolved, filenameOf protocol resolved (canonicalId protocol resolved)⟩ ↔
      Origin.IsSettled t.rest.host.files (.loaded protocol loader resolved) := by
    have kept := id_of_classify_key offers named
    have asks : t.rest.registry.find (classify (canonicalId protocol resolved)).protocol
        (classify (canonicalId protocol resolved)).id = .ok loader := by
      rw [named]
      exact find_any_id found _
    obtain ⟨host, later, same⟩ := resolve_value?_of_found parent asks
    rw [← follows.resolves_again_iff rooted offers later (directoryOf t.rest parent),
      ← Outcome.value?_eq_some_iff, ← Outcome.value?_eq_some_iff, same, kept]
    simp [destinationOf, named]
  rw [follows.leadsBack_iff rooted offers]
  constructor
  · intro value
    obtain ⟨_, _, offered⟩ := resolve_text_origin value
    have named := expected?_inj (follows.loader offered) (follows.loader offers)
    exact ⟨named, (again named).mp value⟩
  · rintro ⟨named, settled⟩
    exact (again named).mpr settled

/-- What is not empty has a key that is not empty. -/
theorem key_ne_empty (follows : Follows settings s.rest)
    (rooted : Path.isAbsolute s.rest.host.files.workingDirectory = true) {parent : Option Nat}
    {name : String} (nonempty : name ≠ "") {destination : Destination}
    (value : (resolve (.text name) parent s).1 = .value destination) : destination.key ≠ "" := by
  obtain ⟨key, _, offers⟩ := resolve_text_origin value
  rw [key]
  intro empty
  have blank : (canonicalId (classify name).protocol destination.resolved).toList = [] := by
    rw [empty]
    rfl
  cases protocol : (classify name).protocol with
  | some served =>
    rw [protocol, Identifier.toList_canonicalId] at blank
    exact absurd (List.append_eq_nil_iff.mp blank).2 (by simp [Identifier.separator])
  | none =>
    rw [protocol] at blank offers
    obtain ⟨_, found⟩ := offers.found
    have asks : s.rest.registry.find (classify name).protocol (classify name).id =
        .ok destination.loader := by
      rw [protocol]
      exact find_any_id found _
    obtain ⟨host, _, same⟩ := resolve_value?_of_found parent asks
    rw [value, (follows.bare_loader offers).2, Loader.ofSearchPath, Loader.resolve_search,
      (Identifier.classify_bare protocol).1] at same
    simp only [Outcome.value?, Option.map_some, Option.some.injEq] at same
    have resolved := congrArg Destination.resolved same
    simp only [destinationOf] at resolved
    change destination.resolved.toList = [] at blank
    cases hit : Loader.findBelow? (Probe.ofTree host.files) settings.extensions name
        (settings.modulePaths.map (Path.absolute s.rest.host.files.workingDirectory)) with
    | none =>
      rw [hit, Option.getD_none] at resolved
      exact nonempty (String.toList_inj.mp (resolved ▸ blank))
    | some path =>
      rw [hit, Option.getD_some] at resolved
      have absolute := (Loader.findBelow?_found (Path.isAbsolute_of_mem_map rooted) hit).1
      rw [← resolved] at absolute
      simp [Path.isAbsolute, blank] at absolute

/-- Whenever it is made, a request for a key has the origin of the key just if the key leads back to it. -/
theorem origin?_key_iff {world : World} (follows : Follows settings world)
    (rooted : Path.isAbsolute world.host.files.workingDirectory = true)
    (bare : world.builtins = .empty) (early : world.Later s.rest) (late : world.Later t.rest)
    {parent : Option Nat} {raw : Value} {origin : Origin} (found : origin? parent raw s = some origin)
    (other : Option Nat) :
    origin? other (.text origin.key) t = some origin ↔ origin.LeadsBack world.host.files := by
  have none_defined (name : String) : t.rest.builtins.contains name = false := by
    rw [late.builtins, bare]
    rfl
  unfold origin? at found
  split at found
  · rename_i name
    split at found
    · cases found
    · rename_i nonempty
      rw [early.builtins, bare] at found
      obtain ⟨destination, value, rfl⟩ := Option.map_eq_some_iff.mp found
      rw [Outcome.value?_eq_some_iff] at value
      obtain ⟨key, filename, offers⟩ := resolve_text_origin value
      have filled := key_ne_empty (follows.later early) (by rwa [early.host.files]) nonempty value
      have stillOffers := late.offers (early.offered offers)
      have stillRooted : Path.isAbsolute t.rest.host.files.workingDirectory = true := by
        rwa [late.host.files]
      have asked := resolve_key_iff (follows.later late) stillRooted key filename stillOffers other
      rw [late.host.files] at asked
      rw [← asked]
      simp only [Origin.key, ← key, origin?, if_neg filled, none_defined, Bool.false_eq_true,
        if_false, Option.map_eq_some_iff, Outcome.value?_eq_some_iff, Origin.loaded.injEq]
      constructor
      · rintro ⟨again, reached, protocol, loader, resolved⟩
        obtain ⟨sameKey, sameName, _⟩ := resolve_text_origin reached
        rw [protocol, resolved, ← key] at sameKey
        rw [protocol, resolved, sameKey, ← filename] at sameName
        rw [reached]
        cases again
        cases destination
        simp_all
      · intro reached
        have leads := asked.mp reached
        rw [← late.host.files, (follows.later late).leadsBack_iff stillRooted stillOffers, ← key] at leads
        have named := leads.1
        exact ⟨destination, reached, named, rfl, rfl⟩
  · cases found

end

/-- What scripts get from the function that resolves identifiers is the key. -/
theorem callFunction_resolve (parent : Option Nat) (raw value : Value) (s : Session) :
    (Script.callFunction (.resolve parent) [raw] s).1 = .value value ↔
      ∃ destination, (resolve raw parent s).1 = .value destination ∧
        value = .text destination.key := by
  simp only [Script.callFunction, Action.bind_apply]
  generalize resolve raw parent s = result
  obtain ⟨outcome, after⟩ := result
  cases outcome with
  | value destination => simp [Action.pure_apply, eq_comm]
  | error | interruption => simp

/-- The record that a request makes for a module has the key of its origin as its id. -/
theorem dispatch_names_record (inner : Script.Requirer) (asMain : Bool) {parent : Option Nat}
    {raw : Value} {origin : Origin} {s : Session} (found : origin? parent raw s = some origin) :
    ∃ number load t, (t.rest.record number).id = .text origin.key ∧
      dispatch inner asMain parent raw s = Cache.getOrLoad hooks origin.key (some number) load t := by
  obtain ⟨t, filename, main, _, _, reaches⟩ := dispatch_of_origin asMain found
  obtain ⟨load, _, reached⟩ := reaches inner
  refine ⟨_, load, _, ?_, reached⟩
  change ((t.rest.addRecord origin.key filename parent).record _).id = _
  rw [World.record_addRecord]
  simp

/-- Keys as identifiers. Whenever it is made and whichever module makes it, in a session without builtins
that is created from settings, a request for the key of what another one has been resolved to is resolved to
the same just if the key leads back, and then both go to the same key of the cache. The key is what scripts
get when they ask where a request goes, and what the records of modules have as their ids. -/
theorem keys_lead_back {settings : Settings} {host : Host}
    (rooted : Path.isAbsolute host.files.workingDirectory = true) {s t : Session}
    (early : Steps (fun _ => True) (created settings .empty host) s)
    (late : Steps (fun _ => True) (created settings .empty host) t) :
    (∀ parent raw destination, (resolve raw parent s).1 = .value destination → ∀ other,
      ((resolve (.text destination.key) other t).1 = .value destination ↔
        Origin.LeadsBack host.files
          (.loaded (classify (s.plainOf raw)).protocol destination.loader destination.resolved))) ∧
    (∀ parent raw origin, origin? parent raw s = some origin → ∀ other,
      (origin? other (.text origin.key) t = some origin ↔ origin.LeadsBack host.files) ∧
      (origin.LeadsBack host.files → target? other (.text origin.key) t = target? parent raw s)) ∧
    (∀ parent raw value, (Script.callFunction (.resolve parent) [raw] s).1 = .value value ↔
      ∃ destination, (resolve raw parent s).1 = .value destination ∧
        value = .text destination.key) ∧
    ∀ inner asMain parent raw origin, origin? parent raw s = some origin → ∃ number load u,
      (u.rest.record number).id = .text origin.key ∧
      dispatch inner asMain parent raw s = Cache.getOrLoad hooks origin.key (some number) load u := by
  obtain ⟨_, _, files, follows⟩ := created_spec settings .empty host
  have bare : (created settings .empty host).rest.builtins = .empty :=
    (configure_supplied settings ⟨.empty, { World.empty host with builtins := .empty }⟩).builtins
  rw [← files] at rooted
  have leads (parent : Option Nat) (raw : Value) (origin : Origin)
      (found : origin? parent raw s = some origin) (other : Option Nat) :
      origin? other (.text origin.key) t = some origin ↔ origin.LeadsBack host.files := by
    rw [← files]
    exact origin?_key_iff follows rooted bare early.later late.later found other
  refine ⟨fun parent raw destination value other => ?_, fun parent raw origin found other =>
    ⟨leads parent raw origin found other, fun back => ?_⟩,
    fun parent raw value => callFunction_resolve parent raw value s,
    fun inner asMain parent raw origin found => dispatch_names_record inner asMain found⟩
  · obtain ⟨key, filename, offers⟩ := resolve_origin value
    rw [← files, ← late.later.host.files]
    exact resolve_key_iff (follows.later late.later) (by rwa [late.later.host.files]) key filename
      (late.later.offers (early.later.offered offers)) other
  · rw [target?_eq_map_origin?, target?_eq_map_origin?, found,
      (leads parent raw origin found other).mpr back]

/-- The key of a file leads back to it after other requests. -/
theorem file_key_leads_back :
    Path.isAbsolute oneFile.workingDirectory = true ∧
    (resolve (.text "/lib/a") none manyWays).1 =
      .value ⟨0, "/lib/a.py", "file:///lib/a.py", "/lib/a.py"⟩ ∧
    (resolve (.text "file:///lib/a.py") (some 0) (manyWays.after manyRequests)).1 =
      .value ⟨0, "/lib/a.py", "file:///lib/a.py", "/lib/a.py"⟩ := by
  have rooted : Path.isAbsolute oneFile.workingDirectory = true := by decide
  have steps : Steps (fun _ => True) manyWays (manyWays.after manyRequests) :=
    after_steps (clean_of_fresh rfl) manyRequests
  refine ⟨rooted, rfl, ((keys_lead_back rooted .refl steps).1 none (.text "/lib/a") _ rfl _).mpr ?_⟩
  let path : NormalPath := ⟨1, [['l', 'i', 'b'], ['a', '.', 'p', 'y']], .inl rfl, by
    simp only [List.forall_mem_cons]
    exact ⟨⟨by decide, by decide, by decide, by decide⟩, ⟨by decide, by decide, by decide, by decide⟩,
      List.forall_mem_nil _⟩⟩
  exact fun _ => ⟨path, rfl, rfl, by decide, by decide⟩

/-- Not all keys of the one file that is known in many ways lead back to it: a bare name that is found is a
local path, and an extension may lead to what is no normal path. Two slashes, a root and a low line cannot
stand in an address, so these keys are read as bare names. -/
theorem keys_lead_elsewhere :
    (resolve (.text "a") none manyWays).1 =
      .value ⟨1, "/lib/a.py", "/lib/a.py", "/lib/a.py"⟩ ∧
    (resolve (.text "/lib/a.py") none manyWays).1 =
      .value ⟨0, "/lib/a.py", "file:///lib/a.py", "/lib/a.py"⟩ ∧
    (resolve (.text "/lib/b") none manyWays).1 =
      .value ⟨0, "/lib/b.d/../a.py", "file:///lib/b.d/../a.py", "/lib/b.d/../a.py"⟩ ∧
    (resolve (.text "file:///lib/b.d/../a.py") none manyWays).1 =
      .value ⟨0, "/lib/a.py", "file:///lib/a.py", "/lib/a.py"⟩ ∧
    ∀ sample ∈ [("./a", "//lib/a.py"), ("/", "/"), ("/a_b", "/a_b")],
      (resolve (.text sample.1) none manyWays).1 =
        .value ⟨0, sample.2, "file://" ++ sample.2, sample.2⟩ ∧
      (resolve (.text ("file://" ++ sample.2)) none manyWays).1 =
        .value ⟨1, "file://" ++ sample.2, "file://" ++ sample.2, "file://" ++ sample.2⟩ := by
  simp only [List.forall_mem_cons]
  exact ⟨rfl, rfl, rfl, rfl, ⟨rfl, rfl⟩, ⟨rfl, rfl⟩, ⟨rfl, rfl⟩, List.forall_mem_nil _⟩

end Session

end ModuleSystem
