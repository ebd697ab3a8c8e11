import GatewayConfig.Proofs.Document.Reading
import GatewayConfig.Session

/-! # Handles of interfaces

An id is a handle on an interface. Ids are given out in turn, so none is in use twice. Main
statement: in whatever way a session goes on, an id stands for the one interface that it was given
to, with the edits that were made through it, until this interface is removed, and for nothing
from then on.
-/

namespace GatewayConfig

/-- What is found under an id after an edit, by what was found there before and the id that is
given out next. -/
def Edit.foundAfter (next id : InterfaceId) (before : Option Interface) : Edit → Option Interface
  | .addInterface name type => if next = id then some (Interface.new name type) else before
  | .addDiscovered entry fallback =>
    if next = id then Discovered.interface? entry fallback else before
  | .removeInterface other => if other = id then none else before
  | .editInterface other edit => if other = id then before.map edit.apply else before
  | .addSection _ | .editSection _ _ | .setGlobal _ _ | .moveInterface _ _ => before

def Edit.through (id : InterfaceId) (i : Interface) : Edit → Interface
  | .editInterface other edit => if other = id then edit.apply i else i
  | _ => i

def Edit.handle? : Edit → Option InterfaceId
  | .removeInterface id | .editInterface id _ => some id
  | _ => none

def Edit.addsOrRemoves : Edit → Bool
  | .addInterface _ _ | .addDiscovered _ _ | .removeInterface _ => true
  | _ => false

namespace Session

inductive Opened : Session → Prop
  | new : Opened Session.new
  | openText (t : Text) (firstId : Nat) : Opened (Session.openText t firstId)

/-- No id is in use twice, and those in use have all been given out. -/
structure Numbered (s : Session) : Prop where
  ids_nodup : s.document.ids.Nodup
  ids_lt : ∀ id ∈ s.document.ids, id.value < s.nextId

namespace Numbered

theorem next_not_mem {s : Session} (h : s.Numbered) : ⟨s.nextId⟩ ∉ s.document.ids :=
  fun hmem => Nat.lt_irrefl _ (h.ids_lt _ hmem)

theorem of_ids_sublist {s : Session} (h : s.Numbered) {d : Document}
    (hids : d.ids.Sublist s.document.ids) : Numbered { s with document := d } where
  ids_nodup := hids.nodup h.ids_nodup
  ids_lt := fun id hid => h.ids_lt id (hids.subset hid)

theorem of_slots_perm {s : Session} (h : s.Numbered) {d : Document}
    (hslots : d.slots.Perm s.document.slots) : Numbered { s with document := d } where
  ids_nodup := (hslots.map Slot.id).nodup_iff.mpr h.ids_nodup
  ids_lt := fun id hid => h.ids_lt id ((hslots.map Slot.id).mem_iff.mp hid)

theorem add {s : Session} (h : s.Numbered) (i : Interface) : (s.add i).Numbered where
  ids_nodup := by
    rw [Session.add, Document.ids_append, ← List.concat_eq_append]
    exact h.ids_nodup.concat h.next_not_mem
  ids_lt := by
    intro id hid
    rw [Session.add, Document.ids_append, List.mem_append, List.mem_singleton] at hid
    rcases hid with hid | rfl
    · exact Nat.lt_succ_of_lt (h.ids_lt id hid)
    · exact Nat.lt_succ_self _

theorem apply {s : Session} (h : s.Numbered) (edit : Edit) : (s.apply edit).Numbered := by
  cases edit with
  | addSection name => exact h.of_slots_perm (.refl _)
  | editSection name edit => exact h.of_slots_perm (.refl _)
  | setGlobal key value => exact h.of_slots_perm (.refl _)
  | addInterface name type => exact h.add _
  | addDiscovered entry fallback =>
    rw [Session.apply]
    split
    next i _ => exact h.add i
    next => exact h
  | removeInterface id => exact h.of_ids_sublist (Document.ids_remove_sublist _ _)
  | moveInterface source target =>
    rw [Session.apply]
    cases hmove : s.document.move? source target with
    | none => exact h
    | some d => exact h.of_slots_perm (Document.perm_of_move? hmove)
  | editInterface id edit =>
    refine h.of_ids_sublist ?_
    rw [Document.ids_updateInterface]

theorem run {s : Session} (h : s.Numbered) (edits : List Edit) : (s.run edits).Numbered := by
  induction edits generalizing s with
  | nil => exact h
  | cons edit edits ih => exact ih (h.apply edit)

end Numbered

theorem Opened.numbered {s : Session} (h : s.Opened) : s.Numbered := by
  cases h with
  | new => exact ⟨by decide, by decide⟩
  | openText t firstId =>
    have hvalues : (Document.read t firstId).ids.map (·.value) =
        List.range' firstId (Document.read t firstId).slots.length := by
      rw [Document.ids, Document.read, Slot.number]
      simp [List.map_map, Function.comp_def, ← List.zipIdx_map_snd]
    constructor
    · refine List.Nodup.of_map InterfaceId.value ?_
      rw [Session.openText, hvalues]
      exact List.nodup_range'
    · intro id hid
      have hmem := List.mem_map_of_mem (f := InterfaceId.value) hid
      rw [Session.openText, hvalues, List.mem_range'_1] at hmem
      exact hmem.2

theorem nextId_le_apply (s : Session) (edit : Edit) : s.nextId ≤ (s.apply edit).nextId := by
  cases edit with
  | addInterface => exact Nat.le_succ _
  | addDiscovered entry fallback =>
    rw [apply]
    split
    next => exact Nat.le_succ _
    next => exact Nat.le_refl _
  | addSection | editSection | setGlobal | removeInterface | moveInterface | editInterface =>
    exact Nat.le_refl _

namespace Numbered

theorem resolves {s : Session} (h : s.Numbered) {id : InterfaceId} {i : Interface}
    (hi : s.document.interface? id = some i) : s.document.Resolves id i :=
  Document.resolves_of_mem h.ids_nodup ((Document.interface?_eq_some_iff h.ids_nodup).mp hi)

theorem interface?_add {s : Session} (h : s.Numbered) (i : Interface) (id : InterfaceId) :
    (s.add i).document.interface? id =
      if (⟨s.nextId⟩ : InterfaceId) = id then some i else s.document.interface? id := by
  rw [Session.add, Document.interface?_append]
  split
  next hid => rw [← hid, Document.interface?_eq_none_iff.mpr h.next_not_mem, Option.none_or]
  next => rw [Option.or_none]

/-- What an edit does to what an id stands for. -/
theorem interface?_apply {s : Session} (h : s.Numbered) (edit : Edit) (id : InterfaceId) :
    (s.apply edit).document.interface? id =
      edit.foundAfter ⟨s.nextId⟩ id (s.document.interface? id) := by
  cases edit with
  | addSection name => rfl
  | editSection name edit => rfl
  | setGlobal key value => rfl
  | addInterface name type => exact h.interface?_add _ id
  | addDiscovered entry fallback =>
    rw [Session.apply, Edit.foundAfter]
    split
    next i hi => rw [h.interface?_add, hi]
    next hnone =>
      split
      next hid => rw [hnone, ← hid, Document.interface?_eq_none_iff.mpr h.next_not_mem]
      next => rfl
  | removeInterface other => exact Document.interface?_remove h.ids_nodup other id
  | moveInterface source target =>
    rw [Session.apply]
    cases hmove : s.document.move? source target with
    | none => rfl
    | some d => exact Document.interface?_of_perm h.ids_nodup (Document.perm_of_move? hmove) id
  | editInterface other edit => exact Document.interface?_updateInterface s.document other id _

/-- An id that is in use stands for its interface, as edited, until it is removed. -/
theorem interface?_run {s : Session} (h : s.Numbered) {id : InterfaceId} {i : Interface}
    (hi : s.document.interface? id = some i) {later : List Edit}
    (hlater : ∀ edit ∈ later, edit ≠ .removeInterface id) :
    (s.run later).document.interface? id = some (later.foldl (Edit.through id) i) := by
  induction later generalizing s i with
  | nil => exact hi
  | cons edit later ih =>
    obtain ⟨hedit, hlater⟩ := List.forall_mem_cons.mp hlater
    refine ih (h.apply edit) ?_ hlater
    have hmem : id ∈ s.document.ids := by
      by_contra hmem
      rw [Document.interface?_eq_none_iff.mpr hmem] at hi
      cases hi
    have hnext : (⟨s.nextId⟩ : InterfaceId) ≠ id := fun heq => h.next_not_mem (heq ▸ hmem)
    rw [h.interface?_apply, hi]
    cases edit with
    | addSection | editSection | setGlobal | moveInterface => rfl
    | addInterface | addDiscovered => exact if_neg hnext
    | removeInterface other => exact if_neg fun heq => hedit (congrArg Edit.removeInterface heq)
    | editInterface other edit =>
      rw [Edit.foundAfter, Edit.through]
      split <;> rfl

/-- An id that was given out and is not in use any more never comes into use again. -/
theorem not_mem_ids_run {s : Session} (h : s.Numbered) {id : InterfaceId}
    (hgiven : id.value < s.nextId) (hid : id ∉ s.document.ids) (later : List Edit) :
    id ∉ (s.run later).document.ids := by
  induction later generalizing s with
  | nil => exact hid
  | cons edit later ih =>
    refine ih (h.apply edit) (Nat.lt_of_lt_of_le hgiven (s.nextId_le_apply edit)) ?_
    have hnext : (⟨s.nextId⟩ : InterfaceId) ≠ id := fun heq => by
      rw [← heq] at hgiven
      exact Nat.lt_irrefl _ hgiven
    rw [← Document.interface?_eq_none_iff] at hid ⊢
    rw [h.interface?_apply, hid]
    cases edit with
    | addSection | editSection | setGlobal | moveInterface => rfl
    | addInterface | addDiscovered => exact if_neg hnext
    | removeInterface other => exact ite_self none
    | editInterface other edit => exact ite_self none

/-- An id that was given out does not stand for anything after its removal. -/
theorem not_mem_ids_run_of_removed {s : Session} (h : s.Numbered) {id : InterfaceId}
    (hgiven : id.value < s.nextId) {later : List Edit} (hremoved : .removeInterface id ∈ later) :
    id ∉ (s.run later).document.ids := by
  induction later generalizing s with
  | nil => cases hremoved
  | cons edit later ih =>
    have hgiven' := Nat.lt_of_lt_of_le hgiven (s.nextId_le_apply edit)
    rcases List.mem_cons.mp hremoved with rfl | hremoved
    · refine (h.apply _).not_mem_ids_run hgiven' ?_ later
      rw [← Document.interface?_eq_none_iff, h.interface?_apply]
      exact if_pos rfl
    · exact ih (h.apply edit) hgiven' hremoved

end Numbered

/-- What a handle is good for at a point of a session, whatever comes then. -/
structure KeepsHandles (s : Session) : Prop where
  /-- Each id in use stands for its own interface alone. -/
  resolves : ∀ slot ∈ s.document.slots, s.document.Resolves slot.id slot.interface
  /-- The id that is given out next is new, and then stands for what it is given to. -/
  gives_out : ∀ name type, s.document.Unresolved ⟨s.nextId⟩ ∧
    (s.apply (.addInterface name type)).document.Resolves ⟨s.nextId⟩ (Interface.new name type)
  /-- It goes on to do so, for the interface as it is edited through the id. -/
  follows : ∀ id i, s.document.interface? id = some i → ∀ later : List Edit,
    (∀ edit ∈ later, edit ≠ .removeInterface id) →
      (s.run later).document.Resolves id (later.foldl (Edit.through id) i)
  /-- After the removal it stands for nothing for good. -/
  expires : ∀ id ∈ s.document.ids, ∀ later : List Edit, .removeInterface id ∈ later →
    (s.run later).document.Unresolved id
  /-- An edit through an id leaves all else as it is. -/
  leaves_others : ∀ edit : Edit, ∀ id ∈ edit.handle?,
    (s.apply edit).document.others id = s.document.others id ∧
      (s.apply edit).document.sections = s.document.sections ∧
      (s.apply edit).document.order = s.document.order
  /-- The ids in use change only where an interface is added or removed. -/
  leaves_ids : ∀ edit : Edit, edit.addsOrRemoves = false →
    (s.apply edit).document.ids.Perm s.document.ids

theorem Numbered.others_apply {s : Session} (h : s.Numbered) {edit : Edit} {id : InterfaceId}
    (hid : id ∈ edit.handle?) :
    (s.apply edit).document.others id = s.document.others id ∧
      (s.apply edit).document.sections = s.document.sections ∧
      (s.apply edit).document.order = s.document.order := by
  cases edit with
  | addSection | editSection | setGlobal | addInterface | addDiscovered | moveInterface =>
    cases hid
  | removeInterface other =>
    obtain rfl : other = id := Option.some_inj.mp hid
    exact ⟨Document.others_remove h.ids_nodup other, rfl, rfl⟩
  | editInterface other edit =>
    obtain rfl : other = id := Option.some_inj.mp hid
    exact ⟨Document.others_updateInterface s.document other _, rfl, rfl⟩

theorem ids_apply_perm (s : Session) {edit : Edit} (h : edit.addsOrRemoves = false) :
    (s.apply edit).document.ids.Perm s.document.ids := by
  cases edit with
  | addSection | editSection | setGlobal => exact .refl _
  | addInterface | addDiscovered | removeInterface => cases h
  | moveInterface source target =>
    rw [Session.apply]
    cases hmove : s.document.move? source target with
    | none => exact .refl _
    | some d => exact (Document.perm_of_move? hmove).map Slot.id
  | editInterface id edit =>
    rw [Session.apply, Document.ids_updateInterface]

theorem Numbered.keepsHandles {s : Session} (h : s.Numbered) : s.KeepsHandles where
  resolves := fun _ => Document.resolves_of_mem h.ids_nodup
  gives_out := by
    intro name type
    refine ⟨Document.unresolved_of_not_mem h.next_not_mem, (h.apply _).resolves ?_⟩
    rw [h.interface?_apply]
    exact if_pos rfl
  follows := fun _ _ hi later hlater => (h.run later).resolves (h.interface?_run hi hlater)
  expires := fun id hid _ hremoved =>
    Document.unresolved_of_not_mem (h.not_mem_ids_run_of_removed (h.ids_lt id hid) hremoved)
  leaves_others := fun _ _ => h.others_apply
  leaves_ids := fun _ => s.ids_apply_perm

/-- Whatever a session has been through, its handles stay with their interfaces. -/
theorem run_keepsHandles {s : Session} (h : s.Opened) (edits : List Edit) :
    (s.run edits).KeepsHandles :=
  (h.numbered.run edits).keepsHandles

theorem run_keepsHandles_moved :
    let s := openText "[interfaces]\n[[Roof]]\n[[Hall]]\n[[Roof]]\n".toList 5
    s.Opened ∧ (s.run [.moveInterface 2 0, .addInterface "Roof".toList [],
      .editInterface ⟨7⟩ (.set "mode".toList "ap".toList), .removeInterface ⟨5⟩,
      .editInterface ⟨8⟩ (.enable false), .moveInterface 0 1]).KeepsHandles :=
  ⟨.openText _ 5, run_keepsHandles (.openText _ 5) _⟩

end Session

end GatewayConfig
