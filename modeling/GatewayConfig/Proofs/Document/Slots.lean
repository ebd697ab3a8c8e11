import GatewayConfig.Document
import Mathlib.Data.List.InsertIdx
import Mathlib.Data.List.Nodup
import Mathlib.Data.List.Perm.Basic

/-! # Interfaces under edits

An interface is addressed by its id or by its position. What is done by an id is done at the first
position with the id, and where no id is used twice that is the only one. Edits by an id leave
all other slots as they are, and a move only changes their order.
-/

namespace GatewayConfig

/-- The list with the element at one position moved to another. -/
def relocate {α : Type*} (source target : Nat) (l : List α) : List α :=
  match l[source]? with
  | some a => (l.eraseIdx source).insertIdx target a
  | none => l

def dropAt {α : Type*} (position : Option Nat) (l : List α) : List α :=
  match position with
  | some n => l.eraseIdx n
  | none => l

theorem map_relocate {α β : Type*} (source target : Nat) (f : α → β) (l : List α) :
    (relocate source target l).map f = relocate source target (l.map f) := by
  rw [relocate, relocate, List.getElem?_map]
  cases l[source]? with
  | none => rfl
  | some a => rw [Option.map_some, List.map_insertIdx, List.eraseIdx_map]

theorem map_dropAt {α β : Type*} (position : Option Nat) (f : α → β) (l : List α) :
    (dropAt position l).map f = dropAt position (l.map f) := by
  cases position with
  | none => rfl
  | some n => exact (List.eraseIdx_map ..).symm

theorem relocate_eq {α : Type*} {l : List α} {source : Nat} (hsource : source < l.length)
    (target : Nat) : relocate source target l = (l.eraseIdx source).insertIdx target l[source] := by
  rw [relocate, List.getElem?_eq_getElem hsource]

theorem le_length_eraseIdx {α : Type*} {l : List α} {source target : Nat}
    (hsource : source < l.length) (htarget : target < l.length) :
    target ≤ (l.eraseIdx source).length := by
  rw [List.length_eraseIdx_of_lt hsource]
  omega

theorem perm_relocate {α : Type*} {l : List α} {source target : Nat}
    (hsource : source < l.length) (htarget : target < l.length) :
    (relocate source target l).Perm l := by
  rw [relocate_eq hsource]
  exact (List.perm_insertIdx _ _ (le_length_eraseIdx hsource htarget)).trans
    (List.getElem_cons_eraseIdx_perm hsource)

namespace Document

def ids (d : Document) : List InterfaceId := d.slots.map (·.id)

def updateAt (d : Document) (position : Nat) (edit : Interface → Interface) : Document :=
  { d with slots := d.slots.modify position fun s => { s with interface := edit s.interface } }

def removeAt (d : Document) (position : Nat) : Document :=
  { d with slots := d.slots.eraseIdx position }

theorem updateInterface_eq (d : Document) (id : InterfaceId) (edit : Interface → Interface) :
    d.updateInterface id edit = match d.index? id with
      | some position => d.updateAt position edit
      | none => d := by
  have hgo (slots : List Slot) : updateInterface.go id edit slots =
      match slots.findIdx? (·.id == id) with
      | some position =>
        slots.modify position fun s => { s with interface := edit s.interface }
      | none => slots := by
    induction slots with
    | nil => rfl
    | cons s rest ih =>
      rw [updateInterface.go, List.findIdx?_cons, ih]
      by_cases hs : s.id = id
      · simp [hs]
      · cases hrest : rest.findIdx? (·.id == id) <;> simp [hs]
  rw [updateInterface, hgo, index?]
  split <;> rfl

theorem remove_eq (d : Document) (id : InterfaceId) :
    d.remove id = match d.index? id with
      | some position => d.removeAt position
      | none => d := by
  rw [remove, List.eraseP_eq_eraseIdx, index?]
  cases d.slots.findIdx? (·.id == id) <;> rfl

theorem take?_eq_some {d : Document} {id : InterfaceId} {position : Nat} {s : Slot}
    (hposition : d.index? id = some position) (hs : d.slots[position]? = some s) :
    d.take? id = some (s, d.remove id) := by
  rw [remove_eq, hposition]
  simp [take?, hposition, hs, removeAt]

/-- A move succeeds when both positions are in use, and relocates a slot. -/
theorem move?_eq (d : Document) (source target : Nat) :
    d.move? source target = if source < d.slots.length ∧ target < d.slots.length then
      some { d with slots := relocate source target d.slots } else none := by
  unfold Document.move? guard relocate
  by_cases hsource : source < d.slots.length
  · rw [List.getElem?_eq_getElem hsource]
    by_cases htarget : target < d.slots.length
    · rw [if_pos htarget, if_pos ⟨hsource, htarget⟩]
      rfl
    · have hrange : ¬(source < d.slots.length ∧ target < d.slots.length) := fun h => htarget h.2
      rw [if_neg hrange, if_neg htarget]
      rfl
  · have hrange : ¬(source < d.slots.length ∧ target < d.slots.length) := fun h => hsource h.1
    rw [if_neg hrange, List.getElem?_eq_none (Nat.le_of_not_lt hsource)]
    rfl

theorem move?_eq_some_iff {d d' : Document} {source target : Nat} :
    d.move? source target = some d' ↔ source < d.slots.length ∧ target < d.slots.length ∧
      d' = { d with slots := relocate source target d.slots } := by
  rw [move?_eq]
  split
  next h => simp [h, eq_comm]
  next h => simp [← and_assoc, h]

/-- The slots under other ids, in their order. -/
def others (d : Document) (id : InterfaceId) : List Slot := d.slots.filter (·.id != id)

/-- The interface is at the position under the id, and whatever is asked or done by the id is asked
of it or done to it. -/
structure ResolvesAt (d : Document) (position : Nat) (id : InterfaceId) (i : Interface) :
    Prop where
  slot : d.slots[position]? = some ⟨id, i⟩
  alone : ∀ other s, d.slots[other]? = some s → s.id = id → other = position
  interface : d.interface? id = some i
  index : d.index? id = some position
  take : d.take? id = some (⟨id, i⟩, d.remove id)
  update : ∀ edit, d.updateInterface id edit = d.updateAt position edit

/-- The id stands for one interface of the document. -/
def Resolves (d : Document) (id : InterfaceId) (i : Interface) : Prop :=
  ∃ position, d.ResolvesAt position id i

/-- The id stands for nothing in the document, and nothing can be done by it. -/
structure Unresolved (d : Document) (id : InterfaceId) : Prop where
  absent : ∀ s ∈ d.slots, s.id ≠ id
  interface : d.interface? id = none
  index : d.index? id = none
  take : d.take? id = none
  update : ∀ edit, d.updateInterface id edit = d

theorem mem_ids_iff {d : Document} {id : InterfaceId} : id ∈ d.ids ↔ ∃ s ∈ d.slots, s.id = id :=
  List.mem_map

theorem interface?_eq_none_iff {d : Document} {id : InterfaceId} :
    d.interface? id = none ↔ id ∉ d.ids := by
  simp [interface?, mem_ids_iff]

theorem index?_eq_none_iff {d : Document} {id : InterfaceId} :
    d.index? id = none ↔ id ∉ d.ids := by
  simp [index?, mem_ids_iff]

theorem interface?_eq_some_iff {d : Document} (h : d.ids.Nodup) {id : InterfaceId}
    {i : Interface} : d.interface? id = some i ↔ ⟨id, i⟩ ∈ d.slots := by
  constructor
  · intro hi
    obtain ⟨s, hs, rfl⟩ := Option.map_eq_some_iff.mp hi
    have hid : s.id = id := by simpa using List.find?_some hs
    subst hid
    exact List.mem_of_find?_eq_some hs
  · intro hmem
    cases hfind : d.interface? id with
    | none => exact absurd (List.mem_map_of_mem hmem) (interface?_eq_none_iff.mp hfind)
    | some j =>
      obtain ⟨s, hs, rfl⟩ := Option.map_eq_some_iff.mp hfind
      have hid : s.id = id := by simpa using List.find?_some hs
      have heq : s = ⟨id, i⟩ :=
        List.inj_on_of_nodup_map h (List.mem_of_find?_eq_some hs) hmem hid
      rw [heq]

theorem resolvesAt_of_getElem? {d : Document} (h : d.ids.Nodup) {position : Nat}
    {id : InterfaceId} {i : Interface} (hslot : d.slots[position]? = some ⟨id, i⟩) :
    d.ResolvesAt position id i := by
  have halone : ∀ other s, d.slots[other]? = some s → s.id = id → other = position := by
    intro other s hs hid
    have hids : d.ids[other]? = d.ids[position]? := by
      rw [ids, List.getElem?_map, List.getElem?_map, hs, hslot, Option.map_some, hid,
        Option.map_some]
    obtain ⟨hother, -⟩ := List.getElem?_eq_some_iff.mp hs
    exact (List.getElem?_inj (by rwa [ids, List.length_map]) h).mp hids
  have hindex : d.index? id = some position := by
    obtain ⟨hlt, hget⟩ := List.getElem?_eq_some_iff.mp hslot
    refine List.findIdx?_eq_some_iff_getElem.mpr ⟨hlt, by simp [hget], fun other hother hid => ?_⟩
    have hsome := List.getElem?_eq_getElem (Nat.lt_trans hother hlt)
    exact Nat.ne_of_lt hother (halone other _ hsome (beq_iff_eq.mp hid))
  exact {
    slot := hslot
    alone := halone
    interface := (interface?_eq_some_iff h).mpr (List.mem_of_getElem? hslot)
    index := hindex
    take := take?_eq_some hindex hslot
    update := fun edit => by rw [updateInterface_eq, hindex] }

theorem resolves_of_mem {d : Document} (h : d.ids.Nodup) {s : Slot} (hs : s ∈ d.slots) :
    d.Resolves s.id s.interface := by
  obtain ⟨position, hposition⟩ := List.getElem?_of_mem hs
  exact ⟨position, resolvesAt_of_getElem? h hposition⟩

theorem unresolved_of_not_mem {d : Document} {id : InterfaceId} (h : id ∉ d.ids) :
    d.Unresolved id := by
  have hindex := index?_eq_none_iff.mpr h
  exact {
    absent := fun s hs hid => h (hid ▸ List.mem_map_of_mem hs)
    interface := interface?_eq_none_iff.mpr h
    index := hindex
    take := by simp [take?, hindex]
    update := fun edit => by rw [updateInterface_eq, hindex] }

theorem ids_append (d : Document) (s : Slot) : (d.append s).ids = d.ids ++ [s.id] := by
  simp [ids, append]

theorem interface?_append (d : Document) (s : Slot) (id : InterfaceId) :
    (d.append s).interface? id =
      (d.interface? id).or (if s.id = id then some s.interface else none) := by
  rw [interface?, append, List.find?_append, Option.map_or, interface?, List.find?_singleton]
  by_cases hs : s.id = id
  · simp [hs]
  · simp [hs]

@[simp] theorem ids_updateInterface (d : Document) (id : InterfaceId)
    (edit : Interface → Interface) : (d.updateInterface id edit).ids = d.ids := by
  have hgo (slots : List Slot) :
      (updateInterface.go id edit slots).map (·.id) = slots.map (·.id) := by
    induction slots with
    | nil => rfl
    | cons s rest ih =>
      rw [updateInterface.go]
      split
      next => rfl
      next => rw [List.map_cons, ih, List.map_cons]
  exact hgo d.slots

theorem interface?_updateInterface (d : Document) (id other : InterfaceId)
    (edit : Interface → Interface) :
    (d.updateInterface id edit).interface? other =
      if id = other then (d.interface? other).map edit else d.interface? other := by
  have hgo (slots : List Slot) :
      ((updateInterface.go id edit slots).find? (·.id == other)).map (·.interface) =
        if id = other then ((slots.find? (·.id == other)).map (·.interface)).map edit
        else (slots.find? (·.id == other)).map (·.interface) := by
    induction slots with
    | nil => simp [updateInterface.go]
    | cons s rest ih =>
      rw [updateInterface.go]
      by_cases hs : s.id = id
      · by_cases hother : id = other
        · simp [hs, hother]
        · simp [hs, hother]
      · rw [if_neg hs]
        by_cases hother : s.id = other
        · simp [hother, show ¬id = other from fun h => hs (hother.trans h.symm)]
        · rw [List.find?_cons_of_neg (by simp [hother]), ih,
            List.find?_cons_of_neg (by simp [hother])]
  exact hgo d.slots

theorem others_updateInterface (d : Document) (id : InterfaceId)
    (edit : Interface → Interface) : (d.updateInterface id edit).others id = d.others id := by
  have hgo (slots : List Slot) :
      (updateInterface.go id edit slots).filter (·.id != id) = slots.filter (·.id != id) := by
    induction slots with
    | nil => rfl
    | cons s rest ih =>
      rw [updateInterface.go]
      split
      next hs => simp [hs]
      next hs => simp [hs, ih]
  exact hgo d.slots

/-- Where no id is used twice, all but the slots under other ids is dropped. -/
theorem slots_remove {d : Document} (h : d.ids.Nodup) (id : InterfaceId) :
    (d.remove id).slots = d.others id := by
  have herase (slots : List Slot) (hslots : (slots.map (·.id)).Nodup) :
      slots.eraseP (·.id == id) = slots.filter (·.id != id) := by
    induction slots with
    | nil => rfl
    | cons s rest ih =>
      obtain ⟨hs, hrest⟩ := List.nodup_cons.mp hslots
      by_cases hid : s.id = id
      · have hall : rest.filter (·.id != id) = rest := by
          rw [List.filter_eq_self]
          intro t ht
          rw [bne_iff_ne, ← hid]
          exact fun heq => hs (List.mem_map.mpr ⟨t, ht, heq⟩)
        simp [hid, hall]
      · rw [List.eraseP_cons_of_neg (by simp [hid]), ih hrest,
          List.filter_cons_of_pos (by simp [hid])]
  exact herase d.slots h

theorem others_remove {d : Document} (h : d.ids.Nodup) (id : InterfaceId) :
    (d.remove id).others id = d.others id := by
  rw [others, slots_remove h, others, List.filter_filter]
  simp

theorem interface?_remove {d : Document} (h : d.ids.Nodup) (id other : InterfaceId) :
    (d.remove id).interface? other = if id = other then none else d.interface? other := by
  rw [interface?, slots_remove h, others, List.find?_filter, interface?]
  by_cases hother : id = other
  · simp [hother]
  · have hsame (s : Slot) : ((s.id != id) = true ∧ (s.id == other) = true) ↔ s.id = other := by
      rw [bne_iff_ne, beq_iff_eq]
      exact ⟨And.right, fun hs => ⟨fun hid => hother (hid.symm.trans hs), hs⟩⟩
    simp only [hsame, if_neg hother]
    rfl

theorem ids_remove_sublist (d : Document) (id : InterfaceId) :
    (d.remove id).ids.Sublist d.ids :=
  List.eraseP_sublist.map _

theorem perm_of_move? {d d' : Document} {source target : Nat}
    (h : d.move? source target = some d') : d'.slots.Perm d.slots := by
  obtain ⟨hsource, htarget, rfl⟩ := move?_eq_some_iff.mp h
  exact perm_relocate hsource htarget

theorem interface?_of_perm {d d' : Document} (h : d.ids.Nodup) (hperm : d'.slots.Perm d.slots)
    (id : InterfaceId) : d'.interface? id = d.interface? id := by
  have h' : d'.ids.Nodup := (hperm.map Slot.id).nodup_iff.mpr h
  ext i
  rw [interface?_eq_some_iff h', interface?_eq_some_iff h, hperm.mem_iff]

@[simp] theorem interfaces_append (d : Document) (s : Slot) :
    (d.append s).interfaces = d.interfaces ++ [s.interface] := by
  simp [append, interfaces]

theorem interfaces_updateAt (d : Document) (position : Nat) (edit : Interface → Interface) :
    (d.updateAt position edit).interfaces = d.interfaces.modify position edit := by
  apply List.ext_getElem?
  intro other
  simp only [interfaces, updateAt, List.getElem?_map, List.getElem?_modify]
  cases d.slots[other]? with
  | none => rfl
  | some s => split <;> rfl

theorem interfaces_removeAt (d : Document) (position : Nat) :
    (d.removeAt position).interfaces = d.interfaces.eraseIdx position := by
  rw [interfaces, removeAt, interfaces, List.eraseIdx_map]

theorem interfaces_move? (d : Document) (source target : Nat) :
    (d.move? source target).map interfaces =
      if source < d.interfaces.length ∧ target < d.interfaces.length then
        some (relocate source target d.interfaces) else none := by
  rw [move?_eq, interfaces, List.length_map]
  split
  next => rw [Option.map_some, interfaces, map_relocate]
  next => rfl

/-- A move within the list relocates the interface and changes nothing else. -/
theorem exists_move? {d : Document} {source target : Nat} (hsource : source < d.interfaces.length)
    (htarget : target < d.interfaces.length) : ∃ d', d.move? source target = some d' ∧
      d'.interfaces = relocate source target d.interfaces ∧
      ∀ name, d'.entries name = d.entries name := by
  rw [interfaces, List.length_map] at hsource htarget
  exact ⟨_, move?_eq_some_iff.mpr ⟨hsource, htarget, rfl⟩, map_relocate .., fun _ => rfl⟩

theorem interfaces_remove (d : Document) (id : InterfaceId) :
    (d.remove id).interfaces = dropAt (d.index? id) d.interfaces := by
  rw [remove_eq]
  cases d.index? id with
  | none => rfl
  | some position => exact interfaces_removeAt d position

/-- What holds of all interfaces and of a new one holds of all after it is appended. -/
theorem forall_append {P : Interface → Prop} {d : Document} (h : ∀ i ∈ d.interfaces, P i)
    {s : Slot} (hs : P s.interface) : ∀ i ∈ (d.append s).interfaces, P i := by
  intro i hi
  rw [interfaces, append, List.map_append, List.mem_append] at hi
  rcases hi with hi | hi
  · exact h i hi
  · rw [List.mem_singleton.mp hi]
    exact hs

theorem forall_updateInterface {P : Interface → Prop} {d : Document} (h : ∀ i ∈ d.interfaces, P i)
    (id : InterfaceId) {edit : Interface → Interface} (hedit : ∀ i, P i → P (edit i)) :
    ∀ i ∈ (d.updateInterface id edit).interfaces, P i := by
  have hgo (slots : List Slot) (hslots : ∀ s ∈ slots, P s.interface) :
      ∀ s ∈ updateInterface.go id edit slots, P s.interface := by
    induction slots with
    | nil => exact hslots
    | cons s rest ih =>
      obtain ⟨hs, hrest⟩ := List.forall_mem_cons.mp hslots
      rw [updateInterface.go]
      split
      next => exact List.forall_mem_cons.mpr ⟨hedit _ hs, hrest⟩
      next => exact List.forall_mem_cons.mpr ⟨hs, ih hrest⟩
  intro i hi
  obtain ⟨s, hs, rfl⟩ := List.mem_map.mp hi
  exact hgo d.slots (fun s hs => h _ (List.mem_map_of_mem hs)) s hs

theorem forall_remove {P : Interface → Prop} {d : Document} (h : ∀ i ∈ d.interfaces, P i)
    (id : InterfaceId) : ∀ i ∈ (d.remove id).interfaces, P i :=
  fun i hi => h i ((List.eraseP_sublist.map _).subset hi)

theorem forall_move? {P : Interface → Prop} {d d' : Document} (h : ∀ i ∈ d.interfaces, P i)
    {source target : Nat} (hmove : d.move? source target = some d') :
    ∀ i ∈ d'.interfaces, P i :=
  fun i hi => h i (((perm_of_move? hmove).map _).subset hi)

end Document

end GatewayConfig
