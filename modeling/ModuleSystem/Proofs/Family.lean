import ModuleSystem.Proofs.Records

/-! # Parents and children

A record has the module that asks for it as its parent from the beginning, and it is made later than its
parent. It becomes a child only when it is attached, and it is attached once at most, for the load that it
was made for. So the children of a record are those of the attached records whose parent it is, in the
order in which they were attached, and whoever goes from parent to parent comes to an end. -/

namespace ModuleSystem

open Identifier (canonicalId)
open ModuleSystem.Action (Flow)
open Session (Plain Stride Fresh)

/-- One more pair is one more value. -/
theorem Ordered.ofList_concat {α : Type} (pairs : List (String × α)) (key : String) (value : α) :
    Ordered.ofList (pairs ++ [(key, value)]) = (Ordered.ofList pairs).set key value := by
  unfold Ordered.ofList
  rw [List.foldl_append]
  rfl

/-- The key and the record that are attached when the code of a module begins to run. -/
def Happening.attached? : Happening → Option (String × Nat)
  | .work .evaluate key number | .work .make key number => some (key, number)
  | _ => none

/-- Whoever goes from a record to its parent, and so on, comes to a record without parent. -/
inductive World.Rooted (world : World) : Nat → Prop
  | root {number : Nat} (orphan : (world.record number).parent = none) : Rooted world number
  | child {number parent : Nat} (known : (world.record number).parent = some parent)
      (rooted : Rooted world parent) : Rooted world number

namespace Session

variable {around : Session → Raised → Prop} {s t : Session} {key : String} {number : Nat}

/-- The keys and records that have been attached, in order. -/
def attachments (history : List Happening) : List (String × Nat) :=
  (history.filterMap Happening.attached?).reverse

/-- The records that have been attached, in order. -/
def attached (s : Session) : List Nat := (attachments s.rest.history).map Prod.snd

theorem attachments_cons (happening : Happening) (history : List Happening) :
    attachments (happening :: history) = attachments history ++ happening.attached?.toList := by
  unfold attachments
  rw [List.filterMap_cons]
  cases happening.attached? with
  | none => simp
  | some pair => simp

/-- A record is about to be attached, if anything is done with it: it has just been made, its load has just
started, or its source has just been asked for. -/
inductive Poised (s : Session) (number : Nat) : Prop
  | created {exports : Value} (latest : s.rest.history.head? = some (.create exports))
      (newest : s.rest.records.size = number + 1)
  | begun {key : String} (latest : s.rest.history.head? = some (.cache (.load key (some number))))
  | fetched {key : String} (latest : s.rest.history.head? = some (.work .fetch key number))

/-- Which records have been attached: each of them once, none that is about to be, and the table of
modules and the children are what this has made of them. A parent is made before its children. -/
structure Lineage (s : Session) : Prop where
  modules : s.rest.modules = .ofList (attachments s.rest.history)
  nodup : s.attached.Nodup
  there : ∀ number ∈ s.attached, number < s.rest.records.size
  poised : ∀ number, s.Poised number → number ∉ s.attached
  older : ∀ number parent, (s.rest.record number).parent = some parent → parent < number
  children : ∀ number, (s.rest.record number).children =
    s.attached.filter fun child => (s.rest.record child).parent = some number

/-! ## What strides do to parents and children -/

theorem SmallStep.parent_eq (step : SmallStep around s t) (there : number < s.rest.records.size) :
    (t.rest.record number).parent = (s.rest.record number).parent := by
  cases step.touched there with
  | kept same | assigned _ _ same | renamed _ _ same | flagged _ _ same | finished _ _ same => rw [same]
  | altered name value _ same => rw [same, ModuleRecord.parent_assign]

theorem Stride.parent_eq (stride : Stride around s t) (there : number < s.rest.records.size) :
    (t.rest.record number).parent = (s.rest.record number).parent := by
  cases stride with
  | plain plain => exact plain.small.parent_eq there
  | complete =>
    rw [settle_record, finished_record]
    split
    · rfl
    · rfl

/-- A record is attached to the key that its load is for: it becomes the module of the key and the last child
of its parent. -/
structure Attaches (s t : Session) (key : String) (number : Nat) : Prop where
  poised : s.Poised number
  pending : s.cache.get? key = some (.pending (some number))
  latest : ∃ happening : Happening, t.rest.history = happening :: s.rest.history ∧
    happening.attached? = some (key, number)
  modules : t.rest.modules = s.rest.modules.set key number
  children : ∀ other, (t.rest.record other).children =
    if (s.rest.record number).parent = some other ∧ other < s.rest.records.size then
      (s.rest.record other).children ++ [number]
    else (s.rest.record other).children

theorem children_attach (world : World) (key : String) (number other : Nat) :
    ((world.attach key number).record other).children =
      if (world.record number).parent = some other ∧ other < world.records.size then
        (world.record other).children ++ [number]
      else (world.record other).children := by
  unfold World.attach
  dsimp only
  have same : World.record { world with modules := world.modules.set key number } number =
      world.record number := rfl
  rw [same]
  cases asks : (world.record number).parent with
  | none =>
    rw [if_neg (by rintro ⟨⟨⟩, _⟩)]
    rfl
  | some parent =>
    dsimp only
    rw [World.record_updateRecord]
    by_cases here : other = parent
    · subst here
      by_cases there : other < world.records.size
      · rw [if_pos ⟨rfl, there⟩, if_pos ⟨rfl, there⟩]
        rfl
      · rw [if_neg fun both => there both.2, if_neg fun both => there both.2]
        rfl
    · have others : ¬ some parent = some other := by
        rintro ⟨⟩
        exact here rfl
      rw [if_neg fun both => here both.1, if_neg fun both => others both.1]
      rfl

theorem Untouched.update {f : ModuleRecord → ModuleRecord} (number : Nat) (s : Session)
    (keeps : ∀ record, (f record).children = record.children) :
    Untouched s ⟨s.cache, s.rest.updateRecord number f⟩ := by
  refine ⟨rfl, fun other => ?_⟩
  dsimp only
  rw [World.record_updateRecord]
  split
  · exact keeps _
  · rfl

/-- A step attaches nothing, and tells of nothing that is attached, or it attaches one record. -/
theorem SmallStep.attached_cases (step : SmallStep around s t) :
    Untouched s t ∧ attachments t.rest.history = attachments s.rest.history ∨
      ∃ key number, Attaches s t key number := by
  have silent {happening : Happening} (told : t.rest.history = happening :: s.rest.history)
      (quiet : happening.attached? = none) : attachments t.rest.history = attachments s.rest.history := by
    rw [told, attachments_cons, quiet]
    exact List.append_nil _
  cases step with
  | create => exact .inl ⟨.create _ _ _ s.rest.main s, silent rfl rfl⟩
  | change change =>
    refine .inl ⟨⟨change.modules_eq, change.children_eq⟩, ?_⟩
    rcases change.history_cases with same | ⟨happening, told, scripted⟩
    · exact congrArg attachments same
    · exact silent told (by cases scripted <;> rfl)
  | @finish _ number =>
    exact .inl
      ⟨Untouched.update (f := fun record => { record with loaded := .bool true }) number s fun _ => rfl, rfl⟩
  | @answer event => exact .inl ⟨.note event s, silent (notes_answer event s).history rfl⟩
  | lend | fetch | enter => exact .inl ⟨⟨rfl, fun _ => rfl⟩, silent rfl rfl⟩
  | @start origin number =>
    have noted := Untouched.note (.load origin.key (some number)) (s.put origin.key (.pending (some number)))
    exact .inl ⟨⟨noted.modules, noted.children⟩, silent (notes_start ..).history rfl⟩
  | @settle origin _ outcome =>
    obtain ⟨event, notes, _⟩ := notes_settle origin.key outcome s
    exact .inl ⟨.settle origin.key outcome s, silent notes.history rfl⟩
  | @evaluate protocol loader number resolved _ _ _ _ _ fetched =>
    let key := canonicalId protocol resolved
    exact .inr ⟨key, number, .fetched fetched.latest, fetched.pending,
      ⟨.work .evaluate key number, congrArg (_ :: ·) (history_attach ..), rfl⟩,
      World.modules_attach s.rest key number, children_attach s.rest key number⟩
  | @make key number _ begun =>
    exact .inr ⟨key, number, .begun begun.latest, begun.pending,
      ⟨.work .make key number, congrArg (_ :: ·) (history_attach ..), rfl⟩,
      World.modules_attach s.rest key number, children_attach s.rest key number⟩
  | _ => exact .inl ⟨⟨rfl, fun _ => rfl⟩, rfl⟩

theorem Stride.attached_cases (stride : Stride around s t) :
    Untouched s t ∧ attachments t.rest.history = attachments s.rest.history ∨
      ∃ key number, Attaches s t key number := by
  cases stride with
  | plain plain => exact plain.small.attached_cases
  | @complete origin number =>
    let outcome : Outcome Raised Value := .value (s.rest.record number).exports
    have marked : Untouched s (s.finished number) :=
      .update (f := fun record => { record with loaded := .bool true }) number s fun _ => rfl
    obtain ⟨event, notes, _⟩ := notes_settle origin.key outcome (s.finished number)
    refine .inl ⟨Flow.trans marked (.settle origin.key outcome (s.finished number)), ?_⟩
    rw [notes.history, attachments_cons]
    exact List.append_nil _

theorem SmallStep.begun_cases (step : SmallStep around s t)
    (latest : t.rest.history.head? = some (.cache (.load key (some number)))) :
    t.rest.history = s.rest.history ∨ s.cache.get? key = none ∧
      t.cache.get? key = some (.pending (some number)) ∧ Fresh s.rest key number := by
  cases step with
  | answer answers =>
    rw [(notes_answer ..).history] at latest
    cases answers <;> cases latest
  | start _ absent fresh =>
    rw [(notes_start ..).history] at latest
    cases latest
    exact .inr ⟨absent, Ordered.get?_set_self .., fresh⟩
  | @settle origin other outcome =>
    obtain ⟨event, notes, notLoad⟩ := notes_settle origin.key outcome s
    rw [notes.history] at latest
    cases latest
    exact absurd rfl (notLoad key number)
  | change change =>
    rcases change.history_cases with same | ⟨happening, told, scripted⟩
    · exact .inl same
    · rw [told] at latest
      cases latest
      cases scripted
  | create | lend | fetch | evaluate | make | enter => cases latest
  | _ => exact .inl rfl

theorem SmallStep.fetched_cases (step : SmallStep around s t)
    (latest : t.rest.history.head? = some (.work .fetch key number)) :
    t.rest.history = s.rest.history ∨ Begun s key number := by
  rcases step.history_cases with same | ⟨happening, told, due⟩
  · exact .inl same
  · rw [told] at latest
    cases latest
    cases due _ _ _ rfl with
    | fetch _ begun => exact .inr begun

/-- What is about to be attached after a stride has been so before, or it has just been made. -/
theorem Stride.poised_cases (stride : Stride around s t) (poised : t.Poised number) :
    s.Poised number ∨ s.rest.records.size = number := by
  cases poised with
  | created latest newest =>
    rcases stride.created_cases latest with ⟨silent, same⟩ | more
    · exact .inl (.created (silent ▸ latest) (same ▸ newest))
    · exact .inr (by omega)
  | begun latest =>
    cases stride with
    | plain plain =>
      rcases plain.small.begun_cases latest with same | ⟨absent, pending, fresh⟩
      · exact .inl (.begun (same ▸ latest))
      · obtain ⟨exports, created⟩ := plain.started _ number absent pending
        exact .inl (.created created fresh.newest)
    | @complete origin done =>
      obtain ⟨event, notes, notLoad⟩ :=
        notes_settle origin.key (.value (s.rest.record done).exports) (s.finished done)
      rw [notes.history] at latest
      cases latest
      exact absurd rfl (notLoad _ _)
  | fetched latest =>
    cases stride with
    | plain plain =>
      rcases plain.small.fetched_cases latest with same | begun
      · exact .inl (.fetched (same ▸ latest))
      · exact .inl (.begun begun.latest)
    | @complete origin done =>
      obtain ⟨event, notes, _⟩ :=
        notes_settle origin.key (.value (s.rest.record done).exports) (s.finished done)
      rw [notes.history] at latest
      cases latest

/-- Where a record is about to be attached, nothing has been attached in the last step. -/
theorem Poised.silent (poised : s.Poised number) {happening : Happening}
    (latest : s.rest.history.head? = some happening) : happening.attached? = none := by
  cases poised with
  | created told | begun told | fetched told =>
    rw [told] at latest
    cases latest
    rfl

/-! ## What is kept by strides -/

/-- A watch on nothing but records: everything else may be kept, and records that have been made. -/
def tracked : Watch := { Watch.everything with tracks := True }

instance : tracked.Lawful where
  grows _ _ := trivial
  goesOn _ _ := trivial
  broad := ⟨fun _ => trivial⟩
  admits _ := trivial
  makes _ _ := trivial
  causes _ _ _ _ := trivial
  settles _ _ _ := trivial

namespace Lineage

theorem older_of_step (lineage : s.Lineage) (step : tracked.Step s t) {parent : Nat}
    (known : (t.rest.record number).parent = some parent) : parent < number := by
  rcases Nat.lt_trichotomy number s.rest.records.size with before | new | beyond
  · rw [step.stride.parent_eq before] at known
    exact lineage.older number parent known
  · subst new
    exact step.parented parent known trivial
  · have last : t.rest.records.size ≤ number := step.stride.size_le_succ.trans beyond
    rw [World.record_of_size_le last] at known
    cases known

/-- The parents of attached records stay, and so does the choice of a module's children among them. -/
theorem filter_of_stride (lineage : s.Lineage) (stride : Stride around s t) (number : Nat) :
    (s.attached.filter fun child => (t.rest.record child).parent = some number) =
      s.attached.filter fun child => (s.rest.record child).parent = some number := by
  refine List.filter_congr fun child member => ?_
  rw [stride.parent_eq (lineage.there child member)]

theorem of_untouched (lineage : s.Lineage) (step : tracked.Step s t) (untouched : Untouched s t)
    (told : attachments t.rest.history = attachments s.rest.history) : t.Lineage := by
  have same : t.attached = s.attached := congrArg (List.map Prod.snd) told
  have size : s.rest.records.size ≤ t.rest.records.size := step.small.size_le
  refine ⟨?_, ?_, fun number member => ?_, fun number poised member => ?_,
    fun number parent => lineage.older_of_step step, fun number => ?_⟩
  · rw [untouched.modules, told]
    exact lineage.modules
  · rw [same]
    exact lineage.nodup
  · rw [same] at member
    exact (lineage.there number member).trans_le size
  · rw [same] at member
    rcases step.stride.poised_cases poised with before | new
    · exact lineage.poised number before member
    · exact absurd new (lineage.there number member).ne'
  · rw [untouched.children, same, lineage.filter_of_stride step.stride]
    exact lineage.children number

theorem of_attaches (lineage : s.Lineage) (filed : s.Filed) (step : tracked.Step s t)
    (attaches : Attaches s t key number) : t.Lineage := by
  obtain ⟨happening, told, own⟩ := attaches.latest
  have new : number ∉ s.attached := lineage.poised number attaches.poised
  have there : number < s.rest.records.size := filed.there key number (.pending attaches.pending)
  have size : s.rest.records.size ≤ t.rest.records.size := step.small.size_le
  have more : attachments t.rest.history = attachments s.rest.history ++ [(key, number)] := by
    rw [told, attachments_cons, own]
    rfl
  have extended : t.attached = s.attached ++ [number] := by
    unfold attached
    rw [more, List.map_append]
    rfl
  refine ⟨?_, ?_, fun other member => ?_, fun other poised _ => ?_,
    fun number parent => lineage.older_of_step step, fun other => ?_⟩
  · rw [attaches.modules, lineage.modules, more]
    exact (Ordered.ofList_concat ..).symm
  · rw [extended]
    exact List.nodup_append.mpr ⟨lineage.nodup, List.nodup_singleton number, by
      rintro child member _ last rfl
      rw [List.mem_singleton] at last
      exact new (last ▸ member)⟩
  · rw [extended] at member
    rcases List.mem_append.mp member with before | last
    · exact (lineage.there other before).trans_le size
    · rw [List.mem_singleton.mp last]
      exact there.trans_le size
  · have latest : t.rest.history.head? = some happening := by
      rw [told]
      rfl
    have silent := poised.silent latest
    rw [own] at silent
    cases silent
  · rw [attaches.children, lineage.children, extended, List.filter_append,
      lineage.filter_of_stride step.stride, List.filter_singleton, step.stride.parent_eq there]
    by_cases asks : (s.rest.record number).parent = some other
    · have known : other < s.rest.records.size := (lineage.older number other asks).trans there
      simp [asks, known]
    · simp [asks]

/-- A stride attaches one record at most, which is not attached yet and is made the last child of its
parent. -/
theorem step (lineage : s.Lineage) (filed : s.Filed) (step : tracked.Step s t) : t.Lineage := by
  rcases step.stride.attached_cases with ⟨untouched, told⟩ | ⟨key, number, attaches⟩
  · exact lineage.of_untouched step untouched told
  · exact lineage.of_attaches filed step attaches

end Lineage

/-! ## Where sessions grow -/

/-- Sessions where a run gets that asks only for modules whose records have been made: strides lead to them
from where nothing has been loaded, and from where something has been set up. -/
inductive Grown : Session → Prop
  | empty (host : Host) : Grown (Session.empty host)
  | set_up {s t : Session} (grown : Grown s) (setUp : SetUp (fun _ => True) s t)
      (modules : t.rest.modules = s.rest.modules) (main : t.rest.main = s.rest.main) : Grown t
  | stride {s t : Session} (grown : Grown s) (step : tracked.Step s t) : Grown t

namespace Grown

theorem of_settings (settings : Settings) (builtins : Ordered Builtin) (host : Host) :
    (created settings builtins host).Grown :=
  have supplied := configure_supplied settings ⟨.empty, { World.empty host with builtins }⟩
  (empty host).set_up (created_setUp settings builtins host) supplied.modules supplied.main

theorem visible (grown : s.Grown) : s.Visible := by
  induction grown with
  | empty host => exact .empty host
  | set_up _ setUp modules _ ih => exact ih.set_up setUp modules
  | stride _ step ih => exact ih.stride step.stride

theorem clean (grown : s.Grown) : tracked.Clean s := by
  induction grown with
  | empty host => exact clean_empty (fun _ _ _ _ _ => trivial) trivial
  | set_up _ setUp modules main ih =>
    exact setUp.clean ih trivial (fun _ => id) (setUp.raises ih.raises) (fun _ _ _ _ _ _ => trivial)
      fun _ => ⟨modules, main⟩
  | stride _ step ih => exact step.clean ih

theorem lineage (grown : s.Grown) : s.Lineage := by
  induction grown with
  | empty host =>
    exact ⟨rfl, List.nodup_nil, by rintro _ ⟨⟩, by rintro _ _ ⟨⟩, by rintro _ _ ⟨⟩, fun _ => rfl⟩
  | @set_up s t _ setUp modules _ ih =>
    have same : t.attached = s.attached := congrArg (fun history => (attachments history).map Prod.snd)
      setUp.history
    have size : t.rest.records.size = s.rest.records.size := congrArg Array.size setUp.records
    have poised {number : Nat} (now : t.Poised number) : s.Poised number := by
      cases now with
      | created latest newest => exact .created (setUp.history ▸ latest) (size ▸ newest)
      | begun latest => exact .begun (setUp.history ▸ latest)
      | fetched latest => exact .fetched (setUp.history ▸ latest)
    refine ⟨?_, ?_, ?_, fun number now => ?_, fun number parent known => ?_, fun number => ?_⟩
    · rw [modules, setUp.history]
      exact ih.modules
    · rw [same]
      exact ih.nodup
    · rw [same, size]
      exact ih.there
    · rw [same]
      exact ih.poised number (poised now)
    · rw [setUp.record] at known
      exact ih.older number parent known
    · rw [setUp.record, same, ih.children]
      simp only [setUp.record]
  | stride grown step ih => exact ih.step grown.visible.filed step

theorem moved (grown : s.Grown) (moved : tracked.Moved s t) : t.Grown := by
  have steps := moved.steps
  clear moved
  induction steps with
  | refl => exact grown
  | tail _ step ih => exact ih.stride step

theorem perform (grown : s.Grown) {task : Task}
    (made : ∀ parent, task.parent? = some parent → parent < s.rest.records.size) : (s.perform task).Grown :=
  grown.moved (perform_moved (fun _ => trivial) grown.clean task fun parent same _ => made parent same)

theorem asked (grown : s.Grown) {task : Task} {inner : Script.Requirer}
    (made : ∀ parent, task.parent? = some parent → parent < s.rest.records.size)
    (elsewhere : ∀ u, u ≠ t → ∀ parent raw, inner parent raw u = require parent raw u)
    (differs : performWith inner s task ≠ s.perform task) : t.Grown :=
  grown.moved (asked_moved (fun _ => trivial) trivial grown.clean (fun parent same _ => made parent same)
    elsewhere differs)

theorem dispatch (grown : s.Grown) (asMain : Bool) {parent : Option Nat} (raw : Value)
    (made : ∀ number, parent = some number → number < s.rest.records.size) :
    (dispatch require asMain parent raw s).2.Grown := by
  have orderly : Orderly tracked s _ (Session.dispatch require asMain parent raw) :=
    dispatch_orderly (fun _ => trivial) trivial asMain (fun number same _ => made number same) raw
  exact grown.moved (orderly s grown.clean (Flow.refl s)).moved

/-- Whatever a script does on the way, it does it where the session grows. -/
theorem script {α : Type} (grown : s.Grown) {scope : Ordered Value} {V : Session → α → Prop}
    {action : Script.FrameAction α} (within : scope.Within (tracked.near s))
    (upheld : Script.FrameUpheld tracked.walk ⟨scope, s⟩ V action action) :
    (action ⟨scope, s⟩).2.session.Grown :=
  grown.moved (upheld ⟨scope, s⟩ ⟨grown.clean, within⟩ (Flow.refl _)).moved.session

end Grown

/-! ## What scripts add to records -/

/-- What is found added to a record has been added by a script, and it is not the children. -/
theorem SmallStep.assigned_cases (step : SmallStep around s t) {name : String} {value : Value}
    (known : (t.rest.record number).assigned.get? name = some value) :
    (s.rest.record number).assigned.get? name = some value ∨
      .alter number name value ∈ t.rest.history ∧ name ≠ "children" := by
  cases step with
  | change change =>
    refine (change.assigned_cases known).imp_right fun ⟨told, apart⟩ => ⟨?_, apart⟩
    rw [told]
    exact List.mem_cons_self ..
  | create =>
    rw [World.record_addRecord] at known
    split at known
    · cases known
    · exact .inl known
  | finish =>
    rw [World.record_updateRecord] at known
    split at known
    · exact .inl known
    · exact .inl known
  | answer | start =>
    refine .inl (Eq.trans ?_ known)
    exact congrArg (fun record => record.assigned.get? name) ((notes_noteEvent ..).record number).symm
  | settle =>
    rw [settle_record] at known
    exact .inl known
  | evaluate | make =>
    change ((World.attach ..).record number).assigned.get? name = _ at known
    rw [World.record_attach] at known
    exact .inl known
  | _ => exact .inl known

theorem SmallSteps.assigned_cases (steps : SmallSteps around s t) {name : String} {value : Value}
    (known : (t.rest.record number).assigned.get? name = some value) :
    (s.rest.record number).assigned.get? name = some value ∨
      .alter number name value ∈ t.rest.history ∧ name ≠ "children" := by
  induction steps with
  | refl => exact .inl known
  | tail _ step ih =>
    rcases step.assigned_cases known with before | new
    · exact (ih before).imp_right (And.imp_left (step.suffix.subset ·))
    · exact .inr new

theorem Grown.assigned_cases (grown : s.Grown) {name : String} {value : Value}
    (known : (s.rest.record number).assigned.get? name = some value) :
    .alter number name value ∈ s.rest.history ∧ name ≠ "children" := by
  induction grown with
  | empty host => cases known
  | set_up _ setUp _ _ ih =>
    rw [setUp.record] at known
    rw [setUp.history]
    exact ih known
  | stride _ step ih =>
    rcases step.small.assigned_cases known with before | new
    · exact (ih before).imp_left (step.small.suffix.subset ·)
    · exact new

/-- Scripts find the parent and the children of a record as they are. -/
structure Shown (s : Session) (number : Nat) : Prop where
  parent : Script.recordMember? s.rest number "parent" =
    some (((s.rest.record number).parent.map Value.record).getD .null)
  children : Script.recordMember? s.rest number "children" = some (.children number)

theorem Grown.shown (grown : s.Grown)
    (kept : ∀ number value, .alter number "parent" value ∉ s.rest.history) (number : Nat) :
    s.Shown number where
  parent := by
    unfold Script.recordMember?
    dsimp only
    cases known : (s.rest.record number).assigned.get? "parent" with
    | none => rfl
    | some value => exact absurd (grown.assigned_cases known).1 (kept number value)
  children := by
    unfold Script.recordMember?
    dsimp only
    cases known : (s.rest.record number).assigned.get? "children" with
    | none => rfl
    | some value => exact absurd rfl (grown.assigned_cases known).2

/-! ## Forests -/

/-- The attached records form a forest: each of them is the child of its parent alone, once and in the order
in which records have been attached, and whoever goes from parent to parent comes to an end. The modules are
what has been attached last for each key. -/
structure Forest (s : Session) : Prop where
  modules : s.rest.modules = .ofList (attachments s.rest.history)
  once : s.attached.Nodup
  mem_children : ∀ parent child, child ∈ (s.rest.record parent).children ↔
    child ∈ s.attached ∧ (s.rest.record child).parent = some parent
  nodup : ∀ parent, (s.rest.record parent).children.Nodup
  unique : ∀ parent other child, child ∈ (s.rest.record parent).children →
    child ∈ (s.rest.record other).children → parent = other
  ordered : ∀ parent, (s.rest.record parent).children.Sublist s.attached
  rooted : ∀ number, s.rest.Rooted number

namespace Lineage

variable (lineage : s.Lineage)

include lineage

theorem mem_children (parent child : Nat) : child ∈ (s.rest.record parent).children ↔
    child ∈ s.attached ∧ (s.rest.record child).parent = some parent := by
  rw [lineage.children, List.mem_filter, decide_eq_true_iff]

theorem rooted (number : Nat) : s.rest.Rooted number := by
  induction number using Nat.strong_induction_on with
  | _ number ih =>
    cases known : (s.rest.record number).parent with
    | none => exact .root known
    | some parent => exact .child known (ih parent (lineage.older number parent known))

theorem forest : s.Forest where
  modules := lineage.modules
  once := lineage.nodup
  mem_children := lineage.mem_children
  nodup parent := by
    rw [lineage.children]
    exact lineage.nodup.filter _
  unique parent other child one two := by
    have same := ((lineage.mem_children parent child).mp one).2.symm.trans
      ((lineage.mem_children other child).mp two).2
    exact Option.some.inj same
  ordered parent := by
    rw [lineage.children]
    exact List.filter_sublist
  rooted := lineage.rooted

end Lineage

/-- Wherever a run gets in which only modules whose records have been made ask for others, the attached
records form a forest, and scripts find its parents and children as they are unless they assign a parent. A
run starts with what is created from settings, and goes on by tasks, to where their modules ask for others,
by requests, and by what scripts do. A request whose key is absent loads a record whose parent is the module
that asks. A request that goes to no key, that is answered from an entry, or whose source cannot be read
attaches nothing. -/
theorem modules_form_a_forest :
    (∀ s : Session, s.Grown → s.Forest ∧
      ((∀ number value, .alter number "parent" value ∉ s.rest.history) → ∀ number, s.Shown number)) ∧
    (∀ settings builtins host, (created settings builtins host).Grown) ∧
    (∀ s : Session, s.Grown →
      (∀ task : Task, (∀ parent, task.parent? = some parent → parent < s.rest.records.size) →
        (s.perform task).Grown ∧
        ∀ inner t, (∀ u, u ≠ t → ∀ parent raw, inner parent raw u = require parent raw u) →
          performWith inner s task ≠ s.perform task → t.Grown) ∧
      (∀ asMain parent raw, (∀ number, parent = some number → number < s.rest.records.size) →
        (dispatch require asMain parent raw s).2.Grown) ∧
      ∀ scope : Ordered Value, scope.Within (tracked.near s) →
        (∀ e, (Script.evaluate require e ⟨scope, s⟩).2.session.Grown) ∧
        ∀ body, (Script.runAll require body ⟨scope, s⟩).2.session.Grown) ∧
    (∀ s asMain parent raw origin, origin? parent raw s = some origin → s.cache.get? origin.key = none →
      ∃ t number load, AsksCache s parent t number ∧ Loads s.rest require number origin load ∧
        dispatch require asMain parent raw s =
          Cache.settle hooks origin.key (load (Cache.start hooks origin.key (some number) t))) ∧
    (∀ s asMain parent raw, origin? parent raw s = none →
      Untouched s (dispatch require asMain parent raw s).2) ∧
    (∀ s asMain parent raw origin, origin? parent raw s = some origin →
      ∀ entry, s.cache.get? origin.key = some entry → Untouched s (dispatch require asMain parent raw s).2) ∧
    ∀ s asMain parent raw protocol loader resolved,
      origin? parent raw s = some (.loaded protocol loader resolved) →
      s.cache.get? (canonicalId protocol resolved) = none →
      ∃ number u, Fetches s (placeOf protocol loader resolved) number
        (dispatch require asMain parent raw s) u ∧
        ((∀ source, (fetchSource (placeOf protocol loader resolved) u).1 ≠ .value source) →
          Unread s (canonicalId protocol resolved) (dispatch require asMain parent raw s)) := by
  refine ⟨fun s grown => ⟨grown.lineage.forest, grown.shown⟩, Grown.of_settings,
    fun s grown => ⟨fun task made => ⟨grown.perform made, fun inner t => grown.asked made⟩,
      fun asMain parent raw => grown.dispatch asMain raw, fun scope within => ⟨fun e => ?_, fun body => ?_⟩⟩,
    fun s asMain parent raw origin => dispatch_loads_asked asMain,
    fun s asMain parent raw => dispatch_lost require asMain,
    fun s asMain parent raw origin found entry => dispatch_answered require asMain found,
    fun s asMain parent raw protocol loader resolved found absent => ?_⟩
  · exact grown.script within (Script.evaluate_upheld (require_alikeFrom (fun _ => trivial) s) e)
  · exact grown.script within (Script.runAll_upheld (require_alikeFrom (fun _ => trivial) s) body)
  · obtain ⟨number, u, fetches⟩ := dispatch_fetches asMain found absent
    exact ⟨number, u, fetches, fetches.unread⟩

/-- A session with a script that makes its module the parent of itself. -/
def adopting : Session :=
  ⟨.empty, { World.empty .empty with
    registry := ⟨.ofList [("file", some 0)], none⟩
    mounted := #[⟨.memory (.ofList [("/m.py", "module.parent = module\n")]) "/" [".py"], 0, []⟩] }⟩

/-- The script has been asked for. -/
def adopted : Session := adopting.perform (.require none (.text "/m.py"))

/-- Whether a value is the record with a number. -/
def isRecord (number : Nat) : Value → Bool
  | .record other => other == number
  | _ => false

theorem eq_of_isRecord {value : Value} (same : isRecord number value = true) : value = .record number := by
  cases value with
  | record other => exact congrArg Value.record (eq_of_beq same)
  | _ => cases same

/-- Whoever goes from a module to what it calls its parent does not come to an end, if a script says so. -/
theorem script_closes_circle : adopted.Grown ∧ 0 ∈ adopted.attached ∧ (adopted.rest.record 0).children = [] ∧
    Script.recordMember? adopted.rest 0 "parent" = some (.record 0) := by
  have set_up : SetUp (fun _ => True) (Session.empty .empty) adopting :=
    ⟨rfl, rfl, rfl, rfl, rfl, fun _ => ⟨fun _ _ _ _ _ => trivial, fun _ _ _ =>
      ⟨fun _ _ _ => trivial, fun _ _ _ => trivial⟩, fun _ _ _ _ _ => trivial⟩⟩
  have grown : adopting.Grown := (Grown.empty .empty).set_up set_up rfl rfl
  obtain ⟨attached, childless, seen⟩ : 0 ∈ adopted.attached ∧ (adopted.rest.record 0).children = [] ∧
      (Script.recordMember? adopted.rest 0 "parent").any (isRecord 0) = true := by decide +kernel
  obtain ⟨value, known, same⟩ := (Option.any_eq_true ..).mp seen
  exact ⟨grown.perform (by rintro _ ⟨⟩), attached, childless, known.trans (by rw [eq_of_isRecord same])⟩

end Session

end ModuleSystem
