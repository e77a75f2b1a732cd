import ModuleSystem.Proofs.Path
import ModuleSystem.Proofs.Run.Load

/-! # What a key stands for

A request is answered from a builtin, or from an id that the loader of a protocol has resolved: this is
its origin, and the key of the request is a text made of it. Builtins and bare names are known by their
own texts, so such a text can be spelled like the key of something else. Apart from these clashes a key
tells its origin, because the text before the first separator is the protocol. -/

namespace ModuleSystem

namespace Identifier

/-- A text that can stand for a protocol: not empty, and of letters and digits only. -/
structure IsProtocol (name : String) : Prop where
  nonempty : name.toList ≠ []
  alphanum : ∀ c ∈ name.toList, c.isAlphanum = true

theorem isProtocol_of_schemeSplit? {chars scheme path : List Char}
    (split : schemeSplit? chars = some (scheme, path)) : IsProtocol (String.ofList scheme) := by
  unfold schemeSplit? at split
  dsimp only at split
  split at split
  · cases split
  · rw [Option.ite_none_left_eq_some, Bool.or_eq_true, not_or, List.isEmpty_iff] at split
    obtain ⟨⟨nonempty, _⟩, same⟩ := split
    cases same
    refine ⟨?_, ?_⟩
    · rwa [String.toList_ofList]
    · rw [String.toList_ofList]
      exact fun c member => List.all_eq_true.mp List.all_takeWhile c member

theorem isProtocol_fileProtocol : IsProtocol fileProtocol :=
  ⟨by decide, List.all_eq_true.mp (by decide : fileProtocol.toList.all Char.isAlphanum = true)⟩

/-- Only what can stand for a protocol is read as one. -/
theorem isProtocol_of_classify {raw name : String} (read : (classify raw).protocol = some name) :
    IsProtocol name := by
  rw [classify_eq] at read
  split at read
  · cases read
    exact isProtocol_fileProtocol
  · split at read
    · rename_i found
      cases read
      obtain ⟨⟨scheme, path⟩, split, same⟩ := Option.map_eq_some_iff.mp found
      cases same
      exact isProtocol_of_schemeSplit? split
    · cases read

theorem toList_canonicalId (name id : String) :
    (canonicalId (some name) id).toList = name.toList ++ (separator ++ id.toList) := by
  simp [canonicalId, separator]

theorem takeWhile_separator (chars : List Char) :
    (separator ++ chars).takeWhile Char.isAlphanum = [] := rfl

/-- What stands before the separator is all that stands before the first character that is neither a
letter nor a digit. -/
theorem IsProtocol.takeWhile {name : String} (protocol : IsProtocol name) (id : String) :
    (canonicalId (some name) id).toList.takeWhile Char.isAlphanum = name.toList := by
  rw [toList_canonicalId, List.takeWhile_append_of_pos protocol.alphanum, takeWhile_separator,
    List.append_nil]

/-- The canonical id of a protocol tells the protocol and the id. -/
theorem IsProtocol.canonicalId_inj {first second : String} (one : IsProtocol first)
    (other : IsProtocol second) {id id' : String}
    (same : canonicalId (some first) id = canonicalId (some second) id') :
    first = second ∧ id = id' := by
  have names : first = second := by
    rw [← String.toList_inj, ← one.takeWhile id, ← other.takeWhile id', same]
  subst names
  exact ⟨rfl, (String.append_right_inj (first ++ "://")).mp same⟩

end Identifier

open Identifier (canonicalId classify IsProtocol)

/-- Where the answer to a request comes from: a builtin, or an id that a loader has resolved. The loader
is one of a protocol, or else the one for bare names. -/
inductive Origin where
  | builtin (name : String)
  | loaded (protocol : Option String) (loader : Nat) (resolved : String)
  deriving DecidableEq, Repr

namespace Origin

/-- The key by which the cache knows an origin. -/
def key : Origin → String
  | .builtin name => name
  | .loaded protocol _ resolved => canonicalId protocol resolved

/-- Whether an origin is loaded by a loader. -/
def isLoaded : Origin → Bool
  | .builtin _ => false
  | .loaded .. => true

/-- The protocol of an origin, if it has one, is one that identifiers can name. -/
def WellNamed : Origin → Prop
  | .builtin _ => True
  | .loaded protocol _ _ => ∀ name ∈ protocol, IsProtocol name

/-- Two origins stand for the same thing: for the builtin of one name, or for one id of one protocol. -/
inductive Alike : Origin → Origin → Prop
  | builtin (name : String) : Alike (.builtin name) (.builtin name)
  | loaded (protocol : Option String) (first second : Nat) (resolved : String) :
      Alike (.loaded protocol first resolved) (.loaded protocol second resolved)

/-- One text stands for different things: for a builtin whose name is spelled like the key of a module,
or for a bare name that its loader resolves to a text spelled like the key of a module with a
protocol. -/
inductive Clashes : Origin → Origin → Prop
  | builtin (protocol : Option String) (loader : Nat) (resolved : String) :
      Clashes (.builtin (canonicalId protocol resolved)) (.loaded protocol loader resolved)
  | bare (name : String) (first second : Nat) (resolved : String) :
      Clashes (.loaded none first (canonicalId (some name) resolved))
        (.loaded (some name) second resolved)

theorem Alike.key {first second : Origin} (alike : Alike first second) : first.key = second.key := by
  cases alike <;> rfl

theorem Clashes.key {first second : Origin} (clash : Clashes first second) :
    first.key = second.key := by
  cases clash <;> rfl

/-- A key tells its origin up to clashes. -/
theorem key_eq_iff {first second : Origin} (one : first.WellNamed) (other : second.WellNamed) :
    first.key = second.key ↔
      Alike first second ∨ Clashes first second ∨ Clashes second first := by
  constructor
  · intro same
    rcases first with name | ⟨p, l, r⟩ <;> rcases second with name' | ⟨p', l', r'⟩
    · cases show name = name' from same
      exact .inl (.builtin name)
    · cases show name = canonicalId p' r' from same
      exact .inr (.inl (.builtin p' l' r'))
    · cases show canonicalId p r = name' from same
      exact .inr (.inr (.builtin p l r))
    · rcases p with _ | p <;> rcases p' with _ | p'
      · cases show r = r' from same
        exact .inl (.loaded none l l' r)
      · cases show r = canonicalId (some p') r' from same
        exact .inr (.inl (.bare p' l l' r'))
      · cases show canonicalId (some p) r = r' from same
        exact .inr (.inr (.bare p l' l r))
      · obtain ⟨rfl, rfl⟩ := (one p rfl).canonicalId_inj (other p' rfl) same
        exact .inl (.loaded (some p) l l' r)
  · rintro (alike | clash | clash)
    · exact alike.key
    · exact clash.key
    · exact clash.key.symm

end Origin

/-- A world has an origin to offer: a builtin that is defined, or what a loader resolves the id of some
identifier to, as seen from nowhere or from a directory with an absolute name. -/
inductive World.Offers (world : World) : Origin → Prop
  | builtin {name : String} (defined : world.builtins.contains name = true) :
      Offers world (.builtin name)
  | loaded {raw resolved : String} {directory : Option String} {loader : Nat} {early : Host}
      (found : world.registry.find (classify raw).protocol (classify raw).id = .ok loader)
      (seen : ∀ path ∈ directory, Path.isAbsolute path = true) (before : world.host.Later early)
      (resolves : ((Session.loaderOf world loader).resolve (classify raw).id directory early).1 =
        .value resolved) :
      Offers world (.loaded (classify raw).protocol loader resolved)

namespace World

variable {world after : World} {origin : Origin}

theorem Offers.wellNamed (offers : world.Offers origin) : origin.WellNamed := by
  cases offers with
  | builtin => trivial
  | loaded => exact fun name read => Identifier.isProtocol_of_classify read

theorem Later.offers (later : world.Later after) (offers : world.Offers origin) :
    after.Offers origin := by
  cases offers with
  | builtin defined => exact .builtin (by rw [later.builtins]; exact defined)
  | loaded found seen before resolves =>
    rw [← later.loaderOf] at resolves
    exact .loaded (by rw [later.registry]; exact found) seen (later.host.symm.trans before) resolves

/-- What a world offers later on it has offered before. -/
theorem Later.offered (later : world.Later after) (offers : after.Offers origin) :
    world.Offers origin := by
  cases offers with
  | builtin defined => exact .builtin (by rw [← later.builtins]; exact defined)
  | loaded found seen before resolves =>
    rw [later.loaderOf] at resolves
    exact .loaded (by rw [← later.registry]; exact found) seen (later.host.trans before) resolves

end World

/-- The directory of a module has an absolute name. -/
theorem ModuleRecord.isAbsolute_directory (record : ModuleRecord) {path : String}
    (known : record.directory = some path) : Path.isAbsolute path = true := by
  obtain ⟨filename, named, rfl⟩ := Option.map_eq_some_iff.mp known
  exact Path.isAbsolute_directory (Option.filter_eq_some_iff.mp named).2

/-- A protocol has one loader at a time. -/
theorem Registry.find_unique {α : Type} {registry : Registry α} {protocol : Option String}
    {id id' : String} {first second : α} (one : registry.find protocol id = .ok first)
    (other : registry.find protocol id' = .ok second) : first = second := by
  cases protocol <;> simp only [Registry.find] at one other <;> split at one <;> simp_all

namespace World

variable {world : World}

theorem Offers.found {protocol : Option String} {loader : Nat} {resolved : String}
    (offers : world.Offers (.loaded protocol loader resolved)) :
    ∃ id, world.registry.find protocol id = .ok loader := by
  cases offers with
  | loaded found => exact ⟨_, found⟩

theorem Offers.resolves {protocol : Option String} {loader : Nat} {resolved : String}
    (offers : world.Offers (.loaded protocol loader resolved)) :
    ∃ id directory early, (∀ path ∈ directory, Path.isAbsolute path = true) ∧
      world.host.Later early ∧
      ((Session.loaderOf world loader).resolve id directory early).1 = .value resolved := by
  cases offers with
  | loaded _ seen before resolves => exact ⟨_, _, _, seen, before, resolves⟩

/-- What a loader gives a text for has a source. -/
theorem Offers.hasSource {protocol : Option String} {text : String} {source : Datum}
    {destination : Destination} {s : Session}
    (offers : world.Offers (.loaded protocol destination.loader destination.resolved))
    (later : world.Later s.rest) (fetched : (Session.fetchSource destination s).1 = .value source)
    (readable : Session.decodeSource source = .text text) :
    world.HasSource (canonicalId protocol destination.resolved) := by
  obtain ⟨late, onward, loads⟩ := Session.fetchSource_value fetched
  rw [later.loaderOf] at loads
  cases offers with
  | loaded found _ before resolves =>
    exact .loader found before resolves (later.host.trans onward) loads readable

/-- In one world origins that stand for the same thing are the same. -/
theorem Offers.eq_of_alike {first second : Origin} (one : world.Offers first)
    (other : world.Offers second) (alike : first.Alike second) : first = second := by
  cases alike with
  | builtin => rfl
  | loaded =>
    obtain ⟨_, found⟩ := one.found
    obtain ⟨_, alsoFound⟩ := other.found
    rw [Registry.find_unique found alsoFound]

end World

namespace Session

variable {s t : Session} {parent : Option Nat} {raw : Value} {origin : Origin}

/-- The origin of a request, if it gets as far as that. -/
def origin? (parent : Option Nat) (raw : Value) (s : Session) : Option Origin :=
  match raw with
  | .scalar (.text name) =>
    if name = "" then none
    else if s.rest.builtins.contains name then some (.builtin name)
    else ((resolve raw parent s).1.value?).map fun destination =>
      .loaded (classify name).protocol destination.loader destination.resolved
  | _ => none

/-- A request that is resolved has been resolved by the loader of its protocol. -/
theorem resolve_origin {destination : Destination}
    (value : (resolve raw parent s).1 = .value destination) :
    destination.key = canonicalId (classify (s.plainOf raw)).protocol destination.resolved ∧
    destination.filename =
      filenameOf (classify (s.plainOf raw)).protocol destination.resolved destination.key ∧
    s.rest.Offers
      (.loaded (classify (s.plainOf raw)).protocol destination.loader destination.resolved) := by
  obtain ⟨_, _, got, value⟩ := Action.bind_value value
  cases got
  obtain ⟨_, _, _, noted, value⟩ := (note_moves _ _).bind_value (R := Run []) value
  obtain ⟨_, _, finds, found, value⟩ := (ofExcept_moves _).bind_value (R := Run []) value
  obtain ⟨_, _, _, called, value⟩ := (recordCall_moves _ _).bind_value (R := Run []) value
  obtain ⟨_, _, resolves, value⟩ := Action.bind_value value
  cases value
  have seen : ∀ path ∈ (parent.map s.rest.record).bind ModuleRecord.directory,
      Path.isAbsolute path = true := by
    intro path member
    obtain ⟨record, _, from_record⟩ := Option.bind_eq_some_iff.mp member
    exact record.isAbsolute_directory from_record
  exact ⟨rfl, rfl, .loaded (ofExcept_value (congrArg Prod.fst finds)) seen
    ((noted.trans found).trans called).later.host (fromLoader_value (congrArg Prod.fst resolves))⟩

theorem resolve_text_origin {name : String} {destination : Destination}
    (value : (resolve (.text name) parent s).1 = .value destination) :
    destination.key = canonicalId (classify name).protocol destination.resolved ∧
    destination.filename =
      filenameOf (classify name).protocol destination.resolved destination.key ∧
    s.rest.Offers (.loaded (classify name).protocol destination.loader destination.resolved) :=
  resolve_origin value

theorem origin?_offers (found : origin? parent raw s = some origin) : s.rest.Offers origin := by
  unfold origin? at found
  split at found
  · split at found
    · cases found
    · split at found
      · cases found
        exact .builtin ‹_›
      · obtain ⟨destination, value, rfl⟩ := Option.map_eq_some_iff.mp found
        exact (resolve_text_origin (Outcome.value?_eq_some_iff.mp value)).2.2
  · cases found

end Session

end ModuleSystem
