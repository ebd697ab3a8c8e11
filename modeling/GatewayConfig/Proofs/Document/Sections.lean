import GatewayConfig.Document
import Mathlib.Data.List.Nodup

/-! # Sections under edits

A document is looked at through two functions, the entries under a name and the order of the
names. These are the laws of both for the edits of one section.
-/

namespace GatewayConfig

namespace Sections

theorem find?_cons (s : Section) (rest : List Section) (name : Text) :
    find? (s :: rest) name = if s.name = name then some s.entries else find? rest name := by
  by_cases h : s.name = name
  · simp [find?, h]
  · simp [find?, h, beq_eq_false_iff_ne.mpr h]

theorem find?_update (sections : List Section) (name other : Text)
    (edit : List Entry → List Entry) :
    find? (update name edit sections) other =
      if other = name then some (edit ((find? sections name).getD []))
      else find? sections other := by
  induction sections with
  | nil =>
    rw [update, find?_cons]
    by_cases h : other = name
    · simp [h, find?]
    · simp [h, Ne.symm h, find?]
  | cons s rest ih =>
    rw [update]
    by_cases hs : s.name = name
    · rw [if_pos hs, find?_cons, find?_cons, find?_cons, if_pos hs]
      by_cases h : other = name
      · simp [h, hs]
      · simp [h, hs, Ne.symm h]
    · rw [if_neg hs, find?_cons, ih, find?_cons, find?_cons, if_neg hs]
      by_cases h : other = name
      · simp [h, hs]
      · simp [h]

theorem update_update (sections : List Section) (name : Text)
    (first second : List Entry → List Entry) :
    update name second (update name first sections) = update name (second ∘ first) sections := by
  induction sections with
  | nil => simp [update]
  | cons s rest ih =>
    by_cases hs : s.name = name
    · simp [update, hs]
    · simp [update, hs, ih]

end Sections

namespace Document

@[simp] theorem entries_editSection (d : Document) (name other : Text)
    (edit : List Entry → List Entry) :
    (d.editSection name edit).entries other =
      if other = name then edit (d.entries name) else d.entries other := by
  rw [entries, editSection, Sections.find?_update]
  split
  next => rfl
  next => rfl

theorem order_editSection (d : Document) (name : Text) (edit : List Entry → List Entry) :
    (d.editSection name edit).order =
      if name ∈ d.order then d.order else d.order ++ [name] := by
  simp [editSection]

@[simp] theorem slots_editSection (d : Document) (name : Text) (edit : List Entry → List Entry) :
    (d.editSection name edit).slots = d.slots := rfl

theorem editSection_editSection (d : Document) (name : Text)
    (first second : List Entry → List Entry) :
    (d.editSection name first).editSection name second = d.editSection name (second ∘ first) := by
  have horder : name ∈ (d.editSection name first).order := by
    rw [order_editSection]
    split
    next h => exact h
    next => simp
  rw [editSection, if_pos (List.contains_iff_mem.mpr horder), editSection, editSection]
  simp [Sections.update_update]

@[simp] theorem mem_order_editSection {d : Document} {name other : Text}
    {edit : List Entry → List Entry} :
    other ∈ (d.editSection name edit).order ↔ other ∈ d.order ∨ other = name := by
  rw [order_editSection]
  split
  next h => exact ⟨.inl, fun ho => ho.elim id (· ▸ h)⟩
  next => simp

theorem nodup_order_editSection {d : Document} (h : d.order.Nodup) (name : Text)
    (edit : List Entry → List Entry) : (d.editSection name edit).order.Nodup := by
  rw [order_editSection]
  split
  next => exact h
  next hname =>
    rw [← List.concat_eq_append]
    exact h.concat hname

@[simp] theorem entries_addSection (d : Document) (name other : Text) :
    (d.addSection name).entries other = d.entries other := by
  rw [addSection, entries_editSection]
  split
  next h => rw [h, id]
  next => rfl

theorem entries_addSections (d : Document) (names : List Text) (other : Text) :
    (names.foldl addSection d).entries other = d.entries other := by
  induction names generalizing d with
  | nil => rfl
  | cons name names ih => rw [List.foldl_cons, ih, entries_addSection]

theorem slots_addSections (d : Document) (names : List Text) :
    (names.foldl addSection d).slots = d.slots := by
  induction names generalizing d with
  | nil => rfl
  | cons name names ih => rw [List.foldl_cons, ih, addSection, slots_editSection]

/-- Names that are new are listed behind the others, in their order. -/
theorem order_addSections (d : Document) {names : List Text} (h : names.Nodup) :
    (names.foldl addSection d).order = d.order ++ names.filter (!d.order.contains ·) := by
  induction names generalizing d with
  | nil => simp
  | cons name names ih =>
    obtain ⟨hname, hnames⟩ := List.nodup_cons.mp h
    rw [List.foldl_cons, ih _ hnames, addSection, order_editSection]
    by_cases hmem : name ∈ d.order
    · simp [hmem]
    · have hfilter : names.filter (!(d.order ++ [name]).contains ·) =
          names.filter (!d.order.contains ·) := by
        apply List.filter_congr
        intro other hother
        have hne : other ≠ name := fun he => hname (he ▸ hother)
        simp [hne]
      rw [if_neg hmem, hfilter, List.append_assoc, List.singleton_append,
        List.filter_cons_of_pos (by simpa using hmem)]

theorem reservedSections_nodup : reservedSections.Nodup := by decide

@[simp] theorem entries_addReserved (d : Document) (name : Text) :
    d.addReserved.entries name = d.entries name :=
  entries_addSections d reservedSections name

@[simp] theorem slots_addReserved (d : Document) : d.addReserved.slots = d.slots :=
  slots_addSections d reservedSections

theorem order_addReserved (d : Document) :
    d.addReserved.order = d.order ++ reservedSections.filter (!d.order.contains ·) :=
  order_addSections d reservedSections_nodup

theorem mem_order_addReserved {d : Document} {name : Text} :
    name ∈ d.addReserved.order ↔ name ∈ d.order ∨ name ∈ reservedSections := by
  rw [order_addReserved, List.mem_append, List.mem_filter]
  by_cases h : name ∈ d.order
  · simp [h]
  · simp [h]

end Document

end GatewayConfig
