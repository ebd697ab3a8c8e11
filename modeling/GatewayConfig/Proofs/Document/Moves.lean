import GatewayConfig.Proofs.Document.Slots
import GatewayConfig.Session

/-! # Moves of interfaces

Taking an element out of a list shifts the positions behind it, so the same target means another
neighbour in a move forward than in a move backward. What a move does is said without neighbours:
where the element ends up, and that without it the list is the same before and after. Main
statement: a move within the list relocates one slot and can be taken back, and any other move
changes nothing.
-/

namespace GatewayConfig

section Relocate
variable {α : Type*} {l : List α} {source target : Nat}

theorem length_relocate (hsource : source < l.length) (htarget : target < l.length) :
    (relocate source target l).length = l.length := by
  have hle := le_length_eraseIdx hsource htarget
  rw [relocate_eq hsource target, List.length_insertIdx_of_le_length hle,
    List.length_eraseIdx_of_lt hsource]
  omega

theorem getElem?_relocate (hsource : source < l.length) (htarget : target < l.length) :
    (relocate source target l)[target]? = l[source]? := by
  rw [relocate_eq hsource target, List.getElem?_insertIdx_self,
    if_pos (le_length_eraseIdx hsource htarget), List.getElem?_eq_getElem hsource]

theorem eraseIdx_relocate (hsource : source < l.length) :
    (relocate source target l).eraseIdx target = l.eraseIdx source := by
  rw [relocate_eq hsource target, List.eraseIdx_insertIdx_self]

theorem relocate_relocate (hsource : source < l.length) (htarget : target < l.length) :
    relocate target source (relocate source target l) = l := by
  have htarget' : target < (relocate source target l).length := by
    rwa [length_relocate hsource htarget]
  have hmoved : (relocate source target l)[target] = l[source] := by
    have h := getElem?_relocate hsource htarget
    rwa [List.getElem?_eq_getElem htarget', List.getElem?_eq_getElem hsource,
      Option.some.injEq] at h
  rw [relocate_eq htarget' source, hmoved, eraseIdx_relocate hsource,
    List.insertIdx_eraseIdx_getElem hsource]

end Relocate

namespace Document

/-- The second document is the first one with the slot at `source` put at `target`. -/
structure Relocated (source target : Nat) (before after : Document) : Prop where
  /-- The slot arrives. -/
  moved : after.slots[target]? = before.slots[source]?
  /-- All other slots keep their order. -/
  others : after.slots.eraseIdx target = before.slots.eraseIdx source
  /-- No slot is lost, and none is there twice. -/
  perm : after.slots.Perm before.slots
  sections : after.sections = before.sections
  order : after.order = before.order
  /-- The opposite move gives the first document back. -/
  back : after.move? target source = some before

theorem relocated_of_move? {d d' : Document} {source target : Nat}
    (h : d.move? source target = some d') : d.Relocated source target d' := by
  have hperm := perm_of_move? h
  obtain ⟨hsource, htarget, rfl⟩ := move?_eq_some_iff.mp h
  refine ⟨getElem?_relocate hsource htarget, eraseIdx_relocate hsource, hperm, rfl, rfl, ?_⟩
  have hlength := length_relocate hsource htarget
  refine move?_eq_some_iff.mpr ⟨hlength.symm ▸ htarget, hlength.symm ▸ hsource, ?_⟩
  simp only [relocate_relocate hsource htarget]

end Document

/-- A move between two positions in use relocates the slot at the first one, and the opposite move
undoes it. A move to or from anywhere else has no result and leaves the session as it is. -/
theorem Session.apply_moveInterface (s : Session) (source target : Nat) :
    if source < s.document.slots.length ∧ target < s.document.slots.length then
      ∃ d, s.document.move? source target = some d ∧ s.document.Relocated source target d ∧
        s.apply (.moveInterface source target) = { s with document := d } ∧
        s.run [.moveInterface source target, .moveInterface target source] = s
    else
      s.document.move? source target = none ∧ s.apply (.moveInterface source target) = s := by
  have hmove := s.document.move?_eq source target
  split at hmove
  next hrange =>
    have hrelocated := Document.relocated_of_move? hmove
    rw [if_pos hrange]
    have happly (d : Document) (h : s.document.move? source target = some d) :
        s.apply (.moveInterface source target) = { s with document := d } := by
      rw [apply, h, Option.getD_some]
    refine ⟨_, hmove, hrelocated, happly _ hmove, ?_⟩
    rw [run, List.foldl_cons, List.foldl_cons, List.foldl_nil, happly _ hmove, apply]
    rw [hrelocated.back, Option.getD_some]
  next hrange =>
    rw [if_neg hrange]
    exact ⟨hmove, by rw [apply, hmove, Option.getD_none]⟩

end GatewayConfig
