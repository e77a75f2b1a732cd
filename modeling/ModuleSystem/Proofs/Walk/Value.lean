import ModuleSystem.World

/-! # Errors and records in values

An error that has been raised can be kept: by a variable, by an attribute of an object, by a container, by a
failure that it has caused, or by a cache. So can the record of a module, or the function with which the
module asks for others. A predicate on what can be kept says what may be found in values, in what is made of
them, and in a world. -/

namespace ModuleSystem

namespace Fault

/-- An error that is not one of the system of modules itself. -/
abbrev Foreign (fault : Fault) : Prop := fault.isRequireError = false

/-- A family of errors that contains all that are not of the system of modules itself. -/
class Broad (P : Fault → Prop) : Prop where
  ordinary {fault : Fault} (foreign : fault.Foreign) : P fault

end Fault

namespace Value

/-- A value is an error, or an error is found in one of its parts. -/
inductive Has : Value → Raised → Prop
  | error (raised : Raised) : Has (.error raised) raised
  | list {mark : Nat} {items : List Value} {value : Value} {raised : Raised}
      (member : value ∈ items) (has : Has value raised) : Has (.list mark items) raised
  | tuple {mark : Nat} {items : List Value} {value : Value} {raised : Raised}
      (member : value ∈ items) (has : Has value raised) : Has (.tuple mark items) raised
  | set {mark : Nat} {items : List Value} {value : Value} {raised : Raised}
      (member : value ∈ items) (has : Has value raised) : Has (.set mark items) raised
  | dictKey {mark : Nat} {entries : List (Value × Value)} {key value : Value} {raised : Raised}
      (member : (key, value) ∈ entries) (has : Has key raised) : Has (.dict mark entries) raised
  | dictValue {mark : Nat} {entries : List (Value × Value)} {key value : Value} {raised : Raised}
      (member : (key, value) ∈ entries) (has : Has value raised) : Has (.dict mark entries) raised

/-- Only errors of one kind are found in a value. -/
def Only (Q : Raised → Prop) (value : Value) : Prop := ∀ raised, value.Has raised → Q raised

/-- All errors that are found in a value belong to a family. -/
abbrev Holds (P : Fault → Prop) (value : Value) : Prop := value.Only fun raised => P raised.fault

theorem Only.mono {Q R : Raised → Prop} {value : Value} (holds : value.Only Q)
    (sub : ∀ raised, Q raised → R raised) : value.Only R := fun raised has =>
  sub raised (holds raised has)

/-- What a value can keep: an error, or the record of a module. -/
inductive Reference where
  | error (raised : Raised)
  | record (number : Nat)

/-- One of some errors, or any record. -/
def Reference.Among (Q : Raised → Prop) : Reference → Prop
  | .error raised => Q raised
  | .record _ => True

theorem Reference.Among.mono {Q R : Raised → Prop} (sub : ∀ raised, Q raised → R raised) :
    ∀ {reference : Reference}, reference.Among Q → reference.Among R
  | .error raised, holds => sub raised holds
  | .record _, _ => trivial

/-- A value is an error, the record of a module or the function with which the module asks for others, or
that is found in one of its parts. -/
inductive Mentions : Value → Reference → Prop
  | error (raised : Raised) : Mentions (.error raised) (.error raised)
  | record (number : Nat) : Mentions (.record number) (.record number)
  | require (number : Nat) : Mentions (.require (some number)) (.record number)
  | list {mark : Nat} {items : List Value} {value : Value} {reference : Reference}
      (member : value ∈ items) (mentions : Mentions value reference) : Mentions (.list mark items) reference
  | tuple {mark : Nat} {items : List Value} {value : Value} {reference : Reference}
      (member : value ∈ items) (mentions : Mentions value reference) : Mentions (.tuple mark items) reference
  | set {mark : Nat} {items : List Value} {value : Value} {reference : Reference}
      (member : value ∈ items) (mentions : Mentions value reference) : Mentions (.set mark items) reference
  | dictKey {mark : Nat} {entries : List (Value × Value)} {key value : Value} {reference : Reference}
      (member : (key, value) ∈ entries) (mentions : Mentions key reference) :
      Mentions (.dict mark entries) reference
  | dictValue {mark : Nat} {entries : List (Value × Value)} {key value : Value} {reference : Reference}
      (member : (key, value) ∈ entries) (mentions : Mentions value reference) :
      Mentions (.dict mark entries) reference

/-- Whatever a value keeps is of one kind. -/
def Within (Q : Reference → Prop) (value : Value) : Prop :=
  ∀ reference, value.Mentions reference → Q reference

theorem Has.mentions {value : Value} {raised : Raised} (has : value.Has raised) :
    value.Mentions (.error raised) := by
  induction has with
  | error => exact .error _
  | list member _ ih => exact .list member ih
  | tuple member _ ih => exact .tuple member ih
  | set member _ ih => exact .set member ih
  | dictKey member _ ih => exact .dictKey member ih
  | dictValue member _ ih => exact .dictValue member ih

/-- If whatever a value keeps is of one kind, so are the errors that are found in it. -/
theorem Within.only {Q : Reference → Prop} {value : Value} (within : value.Within Q) :
    value.Only fun raised => Q (.error raised) := fun _ has => within _ has.mentions

theorem Mentions.has {value : Value} {raised : Raised} (mentions : value.Mentions (.error raised)) :
    value.Has raised := by
  generalize same : Reference.error raised = reference at mentions
  induction mentions with
  | error =>
    cases same
    exact .error _
  | record | require => cases same
  | list member _ ih => exact .list member (ih same)
  | tuple member _ ih => exact .tuple member (ih same)
  | set member _ ih => exact .set member (ih same)
  | dictKey member _ ih => exact .dictKey member (ih same)
  | dictValue member _ ih => exact .dictValue member (ih same)

/-- Where all records may be kept, only errors matter. -/
theorem Only.within {Q : Reference → Prop} {value : Value}
    (only : value.Only fun raised => Q (.error raised)) (all : ∀ number, Q (.record number)) :
    value.Within Q := by
  intro reference mentions
  cases reference with
  | error raised => exact only raised mentions.has
  | record number => exact all number

section

variable {Q : Reference → Prop} {mark : Nat}

@[simp] theorem within_scalar (s : Scalar) : Within Q (.scalar s) := by rintro _ ⟨⟩

@[simp] theorem within_exports (number : Nat) : Within Q (.exports number) := by rintro _ ⟨⟩

@[simp] theorem within_children (number : Nat) : Within Q (.children number) := by rintro _ ⟨⟩

@[simp] theorem within_record (number : Nat) : Within Q (.record number) ↔ Q (.record number) :=
  ⟨fun holds => holds _ (.record number), fun holds _ mentions => by cases mentions; exact holds⟩

@[simp] theorem within_require (parent : Option Nat) :
    Within Q (.require parent) ↔ ∀ number, parent = some number → Q (.record number) := by
  refine ⟨fun holds number same => ?_, fun holds _ mentions => ?_⟩
  · subst same
    exact holds _ (.require number)
  · cases mentions
    exact holds _ rfl

theorem within_optional {number? : Option Nat}
    (known : ∀ number, number? = some number → Q (.record number)) :
    Within Q ((number?.map Value.record).getD .null) := by
  cases number? with
  | none => exact within_scalar _
  | some number => exact (within_record number).mpr (known number rfl)

@[simp] theorem within_cache : Within Q .cache := by rintro _ ⟨⟩

@[simp] theorem within_context : Within Q .context := by rintro _ ⟨⟩

@[simp] theorem within_state (state : Cache.EntryState) : Within Q (.state state) := by rintro _ ⟨⟩

@[simp] theorem within_kind (name : String) : Within Q (.kind name) := by rintro _ ⟨⟩

@[simp] theorem within_function (function : Function) : Within Q (.function function) := by
  rintro _ ⟨⟩

@[simp] theorem within_default : Within Q default := within_scalar _

@[simp] theorem within_ofText? (text : Option String) : Within Q (.ofText? text) := by
  cases text <;> exact within_scalar _

@[simp] theorem within_error (raised : Raised) : Within Q (.error raised) ↔ Q (.error raised) :=
  ⟨fun holds => holds _ (.error raised), fun holds _ mentions => by cases mentions; exact holds⟩

@[simp] theorem within_list (items : List Value) :
    Within Q (.list mark items) ↔ ∀ value ∈ items, value.Within Q :=
  ⟨fun holds _ member _ mentions => holds _ (.list member mentions),
    fun holds _ mentions => by cases mentions with | list member mentions => exact holds _ member _ mentions⟩

@[simp] theorem within_tuple (items : List Value) :
    Within Q (.tuple mark items) ↔ ∀ value ∈ items, value.Within Q :=
  ⟨fun holds _ member _ mentions => holds _ (.tuple member mentions),
    fun holds _ mentions => by cases mentions with | tuple member mentions => exact holds _ member _ mentions⟩

@[simp] theorem within_set (items : List Value) :
    Within Q (.set mark items) ↔ ∀ value ∈ items, value.Within Q :=
  ⟨fun holds _ member _ mentions => holds _ (.set member mentions),
    fun holds _ mentions => by cases mentions with | set member mentions => exact holds _ member _ mentions⟩

@[simp] theorem within_dict (entries : List (Value × Value)) :
    Within Q (.dict mark entries) ↔ ∀ entry ∈ entries, entry.1.Within Q ∧ entry.2.Within Q := by
  refine ⟨fun holds entry member => ⟨fun _ mentions => ?_, fun _ mentions => ?_⟩, fun holds _ mentions => ?_⟩
  · exact holds _ (.dictKey member mentions)
  · exact holds _ (.dictValue member mentions)
  · cases mentions with
    | dictKey member mentions => exact (holds _ member).1 _ mentions
    | dictValue member mentions => exact (holds _ member).2 _ mentions

theorem within_of_forall (all : ∀ reference, Q reference) (value : Value) : value.Within Q := fun _ _ => all _

theorem Within.mono {R : Reference → Prop} {value : Value} (holds : value.Within Q)
    (sub : ∀ reference, Q reference → R reference) : value.Within R := fun reference mentions =>
  sub reference (holds reference mentions)

end

end Value

/-- The values of a table hold errors of one kind only. -/
def Ordered.Only (Q : Raised → Prop) (table : Ordered Value) : Prop :=
  ∀ name value, table.get? name = some value → value.Only Q

/-- The values of a table hold errors of a family only. -/
abbrev Ordered.Holds (P : Fault → Prop) (table : Ordered Value) : Prop :=
  table.Only fun raised => P raised.fault

/-- Whatever the values of a table keep is of one kind. -/
def Ordered.Within (Q : Value.Reference → Prop) (table : Ordered Value) : Prop :=
  ∀ name value, table.get? name = some value → value.Within Q

namespace Ordered

variable {Q : Value.Reference → Prop} {table : Ordered Value}

theorem Within.only (within : table.Within Q) : table.Only fun raised => Q (.error raised) :=
  fun name value known => (within name value known).only

theorem within_empty : Ordered.Within Q .empty := fun _ _ known => by cases known

theorem Within.set (holds : table.Within Q) (name : String) {value : Value} (new : value.Within Q) :
    (table.set name value).Within Q := by
  intro other found known
  rw [get?_set] at known
  split at known
  · cases known
    exact new
  · exact holds other found known

theorem Within.erase (holds : table.Within Q) (name : String) : (table.erase name).Within Q := by
  intro other found known
  rw [get?_erase] at known
  split at known
  · cases known
  · exact holds other found known

theorem Within.setAll (holds : table.Within Q) {pairs : List (String × Value)}
    (all : ∀ pair ∈ pairs, pair.2.Within Q) :
    (pairs.foldl (fun table pair => table.set pair.1 pair.2) table).Within Q := by
  induction pairs generalizing table with
  | nil => exact holds
  | cons pair rest ih =>
    exact ih (holds.set _ (all pair (by simp))) fun other member => all other (by simp [member])

theorem within_ofList {pairs : List (String × Value)} (all : ∀ pair ∈ pairs, pair.2.Within Q) :
    (Ordered.ofList pairs).Within Q := within_empty.setAll all

end Ordered

theorem Ordered.Within.mono {Q R : Value.Reference → Prop} {table : Ordered Value} (holds : table.Within Q)
    (sub : ∀ reference, Q reference → R reference) : table.Within R := fun name value known =>
  (holds name value known).mono sub

/-- Whatever a heap keeps is of one kind: in its objects, and the causes of failures. -/
structure Heap.Within (Q : Value.Reference → Prop) (heap : Heap) : Prop where
  objects : ∀ number, (heap.attributes number).Within Q
  causes : ∀ link ∈ heap.causes, Q (.error link.2)

namespace Heap

variable {Q : Value.Reference → Prop} {heap : Heap}

theorem attributes_push (heap : Heap) (attributes : Ordered Value) (number : Nat) :
    (heap.push attributes).attributes number =
      if number = heap.exports.size then attributes else heap.attributes number := by
  unfold Heap.attributes Heap.push
  rw [Array.getElem?_push]
  split <;> rfl

theorem within_empty : Heap.Within Q .empty := ⟨fun _ => Ordered.within_empty, by rintro _ ⟨⟩⟩

theorem Within.mono {R : Value.Reference → Prop} (holds : heap.Within Q)
    (sub : ∀ reference, Q reference → R reference) : heap.Within R :=
  ⟨fun number => (holds.objects number).mono sub, fun link member => sub _ (holds.causes link member)⟩

theorem Within.marked (holds : heap.Within Q) : heap.marked.Within Q := ⟨holds.objects, holds.causes⟩

theorem Within.link (holds : heap.Within Q) (serial : Nat) {cause : Raised} (new : Q (.error cause)) :
    (heap.link serial cause).Within Q :=
  ⟨holds.objects, List.forall_mem_cons.mpr ⟨new, holds.causes⟩⟩

theorem Within.push (holds : heap.Within Q) {attributes : Ordered Value} (new : attributes.Within Q) :
    (heap.push attributes).Within Q := by
  refine ⟨fun number => ?_, holds.causes⟩
  rw [attributes_push]
  split
  · exact new
  · exact holds.objects number

theorem Within.setAttribute (holds : heap.Within Q) (number : Nat) (name : String) {value : Value}
    (new : value.Within Q) : (heap.setAttribute number name value).Within Q := by
  refine ⟨fun other => ?_, holds.causes⟩
  have old := holds.objects other
  unfold Heap.attributes Heap.setAttribute at *
  rw [Array.getElem?_modify]
  split
  · cases known : heap.exports[other]? with
    | none => exact Ordered.within_empty
    | some table =>
      rw [known] at old
      exact old.set name new
  · exact old

end Heap

namespace Value

variable {Q : Reference → Prop}

mutual

/-- Values made of data only add exports objects. -/
theorem ofDatum_grows (heap : Heap) :
    ∀ datum : Datum, heap.exports.size ≤ (ofDatum heap datum).2.exports.size
  | .scalar _ | .object _ _ => Nat.le_refl _
  | .list items | .tuple items | .set items => ofItems_grows heap.marked items
  | .dict entries => ofEntries_grows heap.marked entries
  | .record attributes => by
    have grown := ofAttributes_grows heap attributes
    simp only [ofDatum, Heap.push, Array.size_push]
    omega

theorem ofItems_grows (heap : Heap) :
    ∀ items : List Datum, heap.exports.size ≤ (ofItems heap items).2.exports.size
  | [] => Nat.le_refl _
  | item :: rest => Nat.le_trans (ofDatum_grows heap item) (ofItems_grows _ rest)

theorem ofEntries_grows (heap : Heap) :
    ∀ entries : List (Datum × Datum), heap.exports.size ≤ (ofEntries heap entries).2.exports.size
  | [] => Nat.le_refl _
  | (key, item) :: rest =>
    Nat.le_trans (Nat.le_trans (ofDatum_grows heap key) (ofDatum_grows _ item)) (ofEntries_grows _ rest)

theorem ofAttributes_grows (heap : Heap) : ∀ attributes : List (String × Datum),
    heap.exports.size ≤ (ofAttributes heap attributes).2.exports.size
  | [] => Nat.le_refl _
  | (_, item) :: rest => Nat.le_trans (ofDatum_grows heap item) (ofAttributes_grows _ rest)

end

mutual

/-- Values made of data keep nothing, and neither do the objects that are made with them. -/
theorem ofDatum_within {heap : Heap} (holds : heap.Within Q) :
    ∀ datum : Datum, (ofDatum heap datum).1.Within Q ∧ (ofDatum heap datum).2.Within Q
  | .scalar _ | .object _ _ => ⟨within_scalar _, holds⟩
  | .list items =>
    have made := ofItems_within holds.marked items
    ⟨(within_list _).mpr made.1, made.2⟩
  | .tuple items =>
    have made := ofItems_within holds.marked items
    ⟨(within_tuple _).mpr made.1, made.2⟩
  | .set items =>
    have made := ofItems_within holds.marked items
    ⟨(within_set _).mpr made.1, made.2⟩
  | .dict entries =>
    have made := ofEntries_within holds.marked entries
    ⟨(within_dict _).mpr made.1, made.2⟩
  | .record attributes =>
    have made := ofAttributes_within holds attributes
    ⟨within_exports _, made.2.push (Ordered.within_ofList made.1)⟩

theorem ofItems_within {heap : Heap} (holds : heap.Within Q) :
    ∀ items : List Datum, (∀ value ∈ (ofItems heap items).1, value.Within Q) ∧
      (ofItems heap items).2.Within Q
  | [] => ⟨by simp [ofItems], holds⟩
  | item :: rest => by
    obtain ⟨first, inner⟩ := ofDatum_within holds item
    obtain ⟨others, last⟩ := ofItems_within inner rest
    refine ⟨?_, last⟩
    simp only [ofItems, List.mem_cons, forall_eq_or_imp]
    exact ⟨first, others⟩

theorem ofEntries_within {heap : Heap} (holds : heap.Within Q) :
    ∀ entries : List (Datum × Datum),
      (∀ entry ∈ (ofEntries heap entries).1, entry.1.Within Q ∧ entry.2.Within Q) ∧
        (ofEntries heap entries).2.Within Q
  | [] => ⟨by simp [ofEntries], holds⟩
  | (key, item) :: rest => by
    obtain ⟨first, inner⟩ := ofDatum_within holds key
    obtain ⟨second, deeper⟩ := ofDatum_within inner item
    obtain ⟨others, last⟩ := ofEntries_within deeper rest
    refine ⟨?_, last⟩
    simp only [ofEntries, List.mem_cons, forall_eq_or_imp]
    exact ⟨⟨first, second⟩, others⟩

theorem ofAttributes_within {heap : Heap} (holds : heap.Within Q) :
    ∀ attributes : List (String × Datum),
      (∀ pair ∈ (ofAttributes heap attributes).1, pair.2.Within Q) ∧
        (ofAttributes heap attributes).2.Within Q
  | [] => ⟨by simp [ofAttributes], holds⟩
  | (name, item) :: rest => by
    obtain ⟨first, inner⟩ := ofDatum_within holds item
    obtain ⟨others, last⟩ := ofAttributes_within inner rest
    refine ⟨?_, last⟩
    simp only [ofAttributes, List.mem_cons, forall_eq_or_imp]
    exact ⟨first, others⟩

end

end Value

/-- Whatever the values of a module record keep is of one kind, and so are its parent and its children. -/
structure ModuleRecord.Within (Q : Value.Reference → Prop) (record : ModuleRecord) : Prop where
  id : record.id.Within Q
  exports : record.exports.Within Q
  loaded : record.loaded.Within Q
  assigned : record.assigned.Within Q
  parent : ∀ number, record.parent = some number → Q (.record number)
  children : ∀ number ∈ record.children, Q (.record number)

theorem ModuleRecord.within_default {Q : Value.Reference → Prop} : ModuleRecord.Within Q default :=
  ⟨Value.within_default, Value.within_default, Value.within_default, Ordered.within_empty, by rintro _ ⟨⟩,
    by rintro _ ⟨⟩⟩

theorem ModuleRecord.Within.mono {Q R : Value.Reference → Prop} {record : ModuleRecord}
    (holds : record.Within Q) (sub : ∀ reference, Q reference → R reference) : record.Within R :=
  ⟨holds.id.mono sub, holds.exports.mono sub, holds.loaded.mono sub, holds.assigned.mono sub,
    fun number same => sub _ (holds.parent number same),
    fun number member => sub _ (holds.children number member)⟩

/-- Whatever a world keeps is of one kind: in its heap, by its records and the variables of scripts, as its
main module and in its table of modules. -/
structure World.Within (Q : Value.Reference → Prop) (world : World) : Prop where
  heap : world.heap.Within Q
  records : ∀ number, (world.record number).Within Q
  scope : ∀ scope, world.scope = some scope → scope.Within Q
  main : ∀ number, world.main = some number → Q (.record number)
  modules : ∀ key number, world.modules.get? key = some number → Q (.record number)

/-- Where everything may be kept, a world keeps nothing else. -/
theorem World.within_of_forall {Q : Value.Reference → Prop} (all : ∀ reference, Q reference) (world : World) :
    world.Within Q where
  heap := ⟨fun _ _ value _ => Value.within_of_forall all value, fun _ _ => all _⟩
  records _ :=
    ⟨Value.within_of_forall all _, Value.within_of_forall all _, Value.within_of_forall all _,
      fun _ value _ => Value.within_of_forall all value, fun _ _ => all _, fun _ _ => all _⟩
  scope _ _ _ value _ := Value.within_of_forall all value
  main _ _ := all _
  modules _ _ _ := all _

theorem World.Within.mono {Q R : Value.Reference → Prop} {world : World} (holds : world.Within Q)
    (sub : ∀ reference, Q reference → R reference) : world.Within R :=
  ⟨holds.heap.mono sub, fun number => (holds.records number).mono sub,
    fun scope same => (holds.scope scope same).mono sub, fun number same => sub _ (holds.main number same),
    fun key number known => sub _ (holds.modules key number known)⟩

end ModuleSystem
