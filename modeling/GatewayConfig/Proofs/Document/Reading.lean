import GatewayConfig.Proofs.Document.Sections
import GatewayConfig.Proofs.Document.Slots
import GatewayConfig.Proofs.Interface

/-! # What reading yields

A tidy document lists each of its sections once, the reserved ones among them, and holds nothing
that a line could not carry but perhaps blank interface names. Edits with writable arguments keep
documents tidy, and whatever the text is, the reader makes a tidy one of it.
-/

namespace GatewayConfig
open Text

namespace Document

structure TidySections (d : Document) : Prop where
  order_nodup : d.order.Nodup
  names_writable : ∀ name ∈ d.order, WritableName name
  entries_writable : ∀ name, ∀ e ∈ d.entries name, e.Writable

structure Tidy (d : Document) : Prop extends d.TidySections where
  reserved_listed : ∀ name ∈ reservedSections, name ∈ d.order
  interfaces_tidy : ∀ i ∈ d.interfaces, i.Tidy

namespace TidySections

theorem editSection {d : Document} (h : d.TidySections) {name : Text} (hname : WritableName name)
    {edit : List Entry → List Entry} (hedit : ∀ e ∈ edit (d.entries name), e.Writable) :
    (d.editSection name edit).TidySections where
  order_nodup := nodup_order_editSection h.order_nodup name edit
  names_writable := by
    intro other hother
    rcases mem_order_editSection.mp hother with hother | rfl
    · exact h.names_writable other hother
    · exact hname
  entries_writable := by
    intro other e he
    rw [entries_editSection] at he
    split at he
    next => exact hedit e he
    next => exact h.entries_writable other e he

theorem addSection {d : Document} (h : d.TidySections) {name : Text} (hname : WritableName name) :
    (d.addSection name).TidySections :=
  h.editSection hname (h.entries_writable name)

theorem addReserved {d : Document} (h : d.TidySections) : d.addReserved.TidySections :=
  List.foldlRecOn reservedSections Document.addSection h fun _ hd _ hname =>
    hd.addSection (WritableName.of_reserved hname)

end TidySections

/-- Ids and the places of interfaces are of no concern to the sections. -/
theorem TidySections.of_sections_eq {d d' : Document} (h : d.TidySections)
    (hsections : d'.sections = d.sections) (horder : d'.order = d.order) : d'.TidySections where
  order_nodup := horder ▸ h.order_nodup
  names_writable := horder ▸ h.names_writable
  entries_writable := by
    intro name
    rw [entries, hsections]
    exact h.entries_writable name

namespace Tidy

theorem editSection {d : Document} (h : d.Tidy) {name : Text} (hname : WritableName name)
    {edit : List Entry → List Entry} (hedit : ∀ e ∈ edit (d.entries name), e.Writable) :
    (d.editSection name edit).Tidy where
  toTidySections := h.toTidySections.editSection hname hedit
  reserved_listed := fun other hother =>
    mem_order_editSection.mpr (.inl (h.reserved_listed other hother))
  interfaces_tidy := h.interfaces_tidy

theorem append {d : Document} (h : d.Tidy) {s : Slot} (hs : s.interface.Tidy) :
    (d.append s).Tidy where
  toTidySections := h.toTidySections.of_sections_eq rfl rfl
  reserved_listed := h.reserved_listed
  interfaces_tidy := forall_append h.interfaces_tidy hs

theorem updateInterface {d : Document} (h : d.Tidy) (id : InterfaceId)
    {edit : Interface → Interface} (hedit : ∀ i, i.Tidy → (edit i).Tidy) :
    (d.updateInterface id edit).Tidy where
  toTidySections := h.toTidySections.of_sections_eq rfl rfl
  reserved_listed := h.reserved_listed
  interfaces_tidy := forall_updateInterface h.interfaces_tidy id hedit

end Tidy

theorem tidySections_nil : TidySections ⟨[], [], []⟩ where
  order_nodup := List.nodup_nil
  names_writable := by simp
  entries_writable := by simp [entries, Sections.find?]

end Document

namespace Slot

@[simp] theorem map_interface_number (first : Nat) (interfaces : List Interface) :
    (number first interfaces).map (·.interface) = interfaces := by
  simp [number, List.map_map, Function.comp_def]

end Slot

namespace Document

@[simp] theorem entries_read (t : Text) (firstId : Nat) (name : Text) :
    (read t firstId).entries name = (Reading.ofText t).document.entries name :=
  entries_addReserved _ name

@[simp] theorem interfaces_read (t : Text) (firstId : Nat) :
    (read t firstId).interfaces = (Reading.ofText t).interfaces :=
  Slot.map_interface_number ..

theorem order_read (t : Text) (firstId : Nat) :
    (read t firstId).order = (Reading.ofText t).document.order ++
      reservedSections.filter (!(Reading.ofText t).document.order.contains ·) :=
  order_addReserved _

theorem mem_order_read {t : Text} {firstId : Nat} {name : Text} :
    name ∈ (read t firstId).order ↔
      name ∈ (Reading.ofText t).document.order ∨ name ∈ reservedSections :=
  mem_order_addReserved

end Document

theorem Interface.updateLast_concat (edit : Interface → Interface) (before : List Interface)
    (i : Interface) : updateLast edit (before ++ [i]) = before ++ [edit i] := by
  induction before with
  | nil => rfl
  | cons j before ih =>
    cases before with
    | nil => rfl
    | cons k before => exact congrArg (j :: ·) ih

theorem Interface.mem_updateLast {edit : Interface → Interface} {interfaces : List Interface}
    {i : Interface} (h : i ∈ updateLast edit interfaces) :
    i ∈ interfaces ∨ ∃ j ∈ interfaces, i = edit j := by
  induction interfaces with
  | nil => cases h
  | cons j rest ih =>
    cases rest with
    | nil => exact .inr ⟨j, by simp, List.mem_singleton.mp h⟩
    | cons k rest =>
      rcases List.mem_cons.mp h with rfl | h
      · exact .inl List.mem_cons_self
      · rcases ih h with h | ⟨l, hl, rfl⟩
        · exact .inl (List.mem_cons_of_mem _ h)
        · exact .inr ⟨l, List.mem_cons_of_mem _ hl, rfl⟩

namespace Reading

/-- What every line of every text leaves as it is. -/
structure Tidy (r : Reading) : Prop where
  sections : r.document.TidySections
  interfaces : ∀ i ∈ r.interfaces, i.Tidy
  place_listed : ∀ name, r.place = .inSection name → name ∈ r.document.order

theorem tidy_start : start.Tidy where
  sections := Document.tidySections_nil
  interfaces := by simp [start]
  place_listed := by simp [start]

theorem Tidy.enter {r : Reading} (h : r.Tidy) {key value : Text}
    (hnew : Entry.Writable ⟨key, value⟩) : (r.enter key value).Tidy := by
  unfold Reading.enter
  split
  next => exact h
  next name hplace =>
    have hname := h.place_listed name hplace
    refine ⟨h.sections.editSection (h.sections.names_writable name hname) ?_, h.interfaces, ?_⟩
    · intro e he
      rcases List.mem_append.mp he with he | he
      · exact h.sections.entries_writable name e he
      · rw [List.mem_singleton.mp he]
        exact hnew
    · intro other hother
      exact Document.mem_order_editSection.mpr (.inl (h.place_listed other hother))
  next hplace =>
    refine ⟨h.sections, ?_, h.place_listed⟩
    intro i hi
    rcases Interface.mem_updateLast hi with hi | ⟨j, hj, rfl⟩
    · exact h.interfaces i hi
    · rw [Interface.enter_eq_set j hnew.key_trimmed hnew.key_ne_nil hnew.value_trimmed]
      exact (h.interfaces j hj).set hnew

theorem tidy_of_label {raw label : Text} (hraw : '\n' ∉ raw)
    (hlabel : Line.classify raw = .interfaceHeader label) :
    (Interface.new (trim label) []).Tidy := by
  obtain ⟨-, hline⟩ := Line.classify_eq_interfaceHeader_iff.mp hlabel
  refine Interface.Tidy.new (trim_trim label) ?_ rfl (by simp)
  intro hmem
  apply hraw
  apply mem_of_mem_trim
  rw [hline]
  simp [mem_of_mem_trim hmem]

theorem Tidy.step {r : Reading} (h : r.Tidy) {raw : Text} (hraw : '\n' ∉ raw) :
    (r.step (Line.classify raw)).Tidy := by
  cases hline : Line.classify raw with
  | blank | comment | unrecognized => exact h
  | malformedHeader => exact ⟨h.sections, h.interfaces, by simp [Reading.step]⟩
  | sectionHeader name =>
    refine ⟨h.sections.addSection (WritableName.of_classify hraw hline), h.interfaces, ?_⟩
    rintro other ⟨⟩
    exact Document.mem_order_editSection.mpr (.inr rfl)
  | interfaceHeader label =>
    rw [Reading.step]
    split
    next =>
      refine ⟨h.sections, ?_, by simp⟩
      intro i hi
      rcases List.mem_append.mp hi with hi | hi
      · exact h.interfaces i hi
      · rw [List.mem_singleton.mp hi]
        exact tidy_of_label hraw hline
    next => exact h
  | entry key value =>
    by_cases hkey : key = []
    · simpa [Reading.step, hkey] using h
    · have hstep : r.step (.entry key value) = r.enter key value := by
        simp [Reading.step, hkey]
      rw [hstep]
      exact h.enter (Entry.Writable.of_classify hraw hline hkey)

theorem tidy_ofText (t : Text) : (ofText t).Tidy := by
  refine List.foldlRecOn ((lines t).map Line.classify) step tidy_start fun r h l hl => ?_
  obtain ⟨raw, hraw, rfl⟩ := List.mem_map.mp hl
  exact h.step (newline_not_mem_of_mem_lines hraw)

end Reading

/-- Every text reads as a tidy document. -/
theorem Document.tidy_read (t : Text) (firstId : Nat) : (read t firstId).Tidy where
  toTidySections :=
    (Reading.tidy_ofText t).sections.addReserved.of_sections_eq rfl rfl
  reserved_listed := fun _ hname => mem_order_read.mpr (.inr hname)
  interfaces_tidy := by
    rw [interfaces_read]
    exact (Reading.tidy_ofText t).interfaces

end GatewayConfig
