import GatewayConfig.Proofs.Document.Reload

/-! # Writable documents

A writable document is a tidy one all of whose interfaces have names. It is reloadable, and unlike
that it is kept by every edit with writable arguments, because a section that does not show now
may show later.
-/

namespace GatewayConfig
open Text

namespace Document

structure Writable (d : Document) : Prop extends d.TidySections where
  reserved_listed : ∀ name ∈ reservedSections, name ∈ d.order
  interfaces_writable : ∀ i ∈ d.interfaces, i.Writable

namespace Writable

theorem tidy {d : Document} (h : d.Writable) : d.Tidy where
  toTidySections := h.toTidySections
  reserved_listed := h.reserved_listed
  interfaces_tidy := fun i hi => (h.interfaces_writable i hi).toTidy

theorem reloadable {d : Document} (h : d.Writable) : d.Reloadable where
  toLegibleSections := h.tidy.legible.toLegibleSections
  interfaces_writable := h.interfaces_writable

theorem empty : Document.empty.Writable where
  toTidySections := tidySections_nil.addReserved
  reserved_listed := fun _ hname => mem_order_addReserved.mpr (.inr hname)
  interfaces_writable := by
    rw [interfaces, Document.empty, slots_addReserved]
    simp

theorem editSection {d : Document} (h : d.Writable) {name : Text} (hname : WritableName name)
    {edit : List Entry → List Entry} (hedit : ∀ e ∈ edit (d.entries name), e.Writable) :
    (d.editSection name edit).Writable :=
  { h.tidy.editSection hname hedit with interfaces_writable := h.interfaces_writable }

theorem append {d : Document} (h : d.Writable) {s : Slot} (hs : s.interface.Writable) :
    (d.append s).Writable :=
  { h.tidy.append hs.toTidy with
    interfaces_writable := forall_append h.interfaces_writable hs }

theorem remove {d : Document} (h : d.Writable) (id : InterfaceId) : (d.remove id).Writable where
  toTidySections := h.toTidySections.of_sections_eq rfl rfl
  reserved_listed := h.reserved_listed
  interfaces_writable := forall_remove h.interfaces_writable id

theorem move? {d d' : Document} (h : d.Writable) {source target : Nat}
    (hmove : d.move? source target = some d') : d'.Writable := by
  have hinterfaces := forall_move? h.interfaces_writable hmove
  obtain ⟨-, -, rfl⟩ := move?_eq_some_iff.mp hmove
  exact ⟨h.toTidySections.of_sections_eq rfl rfl, h.reserved_listed, hinterfaces⟩

theorem updateInterface {d : Document} (h : d.Writable) (id : InterfaceId)
    {edit : Interface → Interface} (hedit : ∀ i, i.Writable → (edit i).Writable) :
    (d.updateInterface id edit).Writable where
  toTidySections := h.toTidySections.of_sections_eq rfl rfl
  reserved_listed := h.reserved_listed
  interfaces_writable := forall_updateInterface h.interfaces_writable id hedit

end Writable

end Document

/-- The labels of a text's interface headers, also of those that stand in no place for them. -/
def interfaceLabels (t : Text) : List Text :=
  (lines t).filterMap fun l => match Line.classify l with
    | .interfaceHeader label => some label
    | _ => none

theorem Interface.name_enter (i : Interface) (key value : Text) :
    (i.enter key value).name = i.name := by
  unfold enter
  dsimp only
  split
  next => rfl
  next => split <;> rfl

theorem Reading.named_step {r : Reading} (h : ∀ i ∈ r.interfaces, i.name ≠ []) {l : Line}
    (hl : ∀ label, l = .interfaceHeader label → blank label = false) :
    ∀ i ∈ (r.step l).interfaces, i.name ≠ [] := by
  cases l with
  | blank | comment | unrecognized | malformedHeader | sectionHeader => exact h
  | interfaceHeader label =>
    rw [step]
    split
    next =>
      intro i hi
      rcases List.mem_append.mp hi with hi | hi
      · exact h i hi
      · rw [List.mem_singleton.mp hi]
        exact blank_eq_false_iff.mp (hl label rfl)
    next => exact h
  | entry key value =>
    rw [step]
    split
    next => exact h
    next =>
      unfold enter
      split
      next => exact h
      next => exact h
      next =>
        intro i hi
        rcases Interface.mem_updateLast hi with hi | ⟨j, hj, rfl⟩
        · exact h i hi
        · rw [Interface.name_enter]
          exact h j hj

theorem Reading.named_through {r : Reading} (h : ∀ i ∈ r.interfaces, i.name ≠ []) {ls : List Text}
    (hls : ∀ l ∈ ls, ∀ label, Line.classify l = .interfaceHeader label → blank label = false) :
    ∀ i ∈ (r.through ls).interfaces, i.name ≠ [] := by
  induction ls generalizing r with
  | nil => exact h
  | cons l ls ih =>
    obtain ⟨hl, hls⟩ := List.forall_mem_cons.mp hls
    exact ih (named_step h hl) hls

/-- If no label of a text is blank, then all interfaces that it reads as have names. -/
theorem Document.named_read {t : Text} (h : ∀ label ∈ interfaceLabels t, blank label = false)
    (firstId : Nat) : ∀ i ∈ (read t firstId).interfaces, blank i.name = false := by
  have hlines : ∀ l ∈ lines t, ∀ label, Line.classify l = .interfaceHeader label →
      blank label = false := by
    intro l hl label hlabel
    exact h label (List.mem_filterMap.mpr ⟨l, hl, by rw [hlabel]⟩)
  have hnamed := Reading.named_through (r := .start) (by simp [Reading.start]) hlines
  rw [← Reading.ofText_eq_through, ← interfaces_read t firstId] at hnamed
  intro i hi
  rw [blank_eq_false_iff, ((tidy_read t firstId).interfaces_tidy i hi).name_trimmed]
  exact hnamed i hi

/-- A text reads as a writable document if all interfaces have names. -/
theorem Document.writable_read {t : Text} {firstId : Nat}
    (h : ∀ i ∈ (read t firstId).interfaces, blank i.name = false) :
    (read t firstId).Writable where
  toTidySections := (tidy_read t firstId).toTidySections
  reserved_listed := (tidy_read t firstId).reserved_listed
  interfaces_writable := by
    intro i hi
    have htidy := (tidy_read t firstId).interfaces_tidy i hi
    have hname := h i hi
    rw [blank_eq_false_iff, htidy.name_trimmed] at hname
    exact { htidy with name_ne_nil := hname }

end GatewayConfig
