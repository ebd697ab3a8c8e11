import GatewayConfig.Schema.Catalogue
import GatewayConfig.Validation.Fault

/-! # Laws of the catalogue

A type is known by its name, and the fields of a type come from one finite list, whatever text
names the type. What has to hold of every field is therefore decided once, over that list.
-/

namespace GatewayConfig

theorem InterfaceType.ofName?_eq_some_iff {name : Text} {t : InterfaceType} :
    ofName? name = some t ↔ name = t.name := by
  constructor
  · intro h
    have := List.find?_some h
    exact (beq_iff_eq.mp this).symm
  · rintro rfl
    cases t <;> decide

theorem InterfaceType.mem_all (t : InterfaceType) : t ∈ all := by
  cases t <;> decide

/-- Only the name of a type has requirements. -/
theorem Requirement.exists_of_mem_ofTypeName {type : Text} {r : Requirement}
    (h : r ∈ ofTypeName type) : ∃ t : InterfaceType, type = t.name ∧ r ∈ ofType t := by
  rw [ofTypeName] at h
  split at h
  next t ht => exact ⟨t, InterfaceType.ofName?_eq_some_iff.mp ht, h⟩
  next => cases h

namespace Catalogue

theorem exists_of_mem_ownFields {type : Text} {f : Field} (h : f ∈ ownFields type) :
    ∃ t : InterfaceType, type = t.name ∧ f ∈ typeFields t := by
  rw [ownFields] at h
  split at h
  next t ht => exact ⟨t, InterfaceType.ofName?_eq_some_iff.mp ht, h⟩
  next => cases h

def everyField : List Field :=
  globalDiscoveryFields ++ commonFields ++ discoveryFields ++ InterfaceType.all.flatMap typeFields

theorem mem_override {fields : List Field} {f g : Field} (h : g ∈ override fields f) :
    g ∈ fields ∨ g = f := by
  induction fields with
  | nil => exact .inr (List.mem_singleton.mp h)
  | cons first rest ih =>
    rw [override] at h
    split at h
    next =>
      rcases List.mem_cons.mp h with rfl | h
      · exact .inr rfl
      · exact .inl (List.mem_cons_of_mem _ h)
    next =>
      rcases List.mem_cons.mp h with rfl | h
      · exact .inl List.mem_cons_self
      · exact (ih h).imp_left (List.mem_cons_of_mem _)

theorem mem_foldl_override {fields more : List Field} {g : Field}
    (h : g ∈ more.foldl override fields) : g ∈ fields ∨ g ∈ more := by
  induction more generalizing fields with
  | nil => exact .inl h
  | cons f more ih =>
    rcases ih h with h | h
    · rcases mem_override h with h | rfl
      · exact .inl h
      · exact .inr List.mem_cons_self
    · exact .inr (List.mem_cons_of_mem _ h)

theorem mem_override_self (fields : List Field) (f : Field) : f ∈ override fields f := by
  induction fields with
  | nil => exact List.mem_cons_self
  | cons g rest ih =>
    rw [override]
    split
    next => exact List.mem_cons_self
    next => exact List.mem_cons_of_mem _ ih

theorem mem_override_of_ne {fields : List Field} {f g : Field} (h : g ∈ fields)
    (hkey : g.key ≠ f.key) : g ∈ override fields f := by
  induction fields with
  | nil => cases h
  | cons first rest ih =>
    rw [override]
    split
    next hsame =>
      rcases List.mem_cons.mp h with rfl | h
      · exact absurd hsame hkey
      · exact List.mem_cons_of_mem _ h
    next =>
      rcases List.mem_cons.mp h with rfl | h
      · exact List.mem_cons_self
      · exact List.mem_cons_of_mem _ (ih h)

/-- A field is not overridden if no other one has its key. -/
theorem mem_foldl_override_of_mem {fields more : List Field} {f : Field}
    (h : f ∈ fields ∨ f ∈ more) (honly : ∀ g ∈ more, g.key = f.key → g = f) :
    f ∈ more.foldl override fields := by
  induction more generalizing fields with
  | nil => exact h.resolve_right List.not_mem_nil
  | cons g more ih =>
    obtain ⟨hg, hmore⟩ := List.forall_mem_cons.mp honly
    refine ih ?_ hmore
    by_cases hkey : g.key = f.key
    · rw [hg hkey]
      exact .inl (mem_override_self fields f)
    · rcases h with h | h
      · exact .inl (mem_override_of_ne h (Ne.symm hkey))
      · rcases List.mem_cons.mp h with rfl | h
        · exact absurd rfl hkey
        · exact .inr h

/-- The fields of a type are put together from lists of fields. -/
theorem mem_everyField_of_mem_parts {type : Text} {f : Field}
    (h : f ∈ commonFields ++ discoveryFields ++ ownFields type) : f ∈ everyField := by
  simp only [everyField, List.mem_append] at h ⊢
  rcases h with (h | h) | h
  · exact .inl (.inl (.inr h))
  · exact .inl (.inr h)
  · obtain ⟨t, -, h⟩ := exists_of_mem_ownFields h
    exact .inr (List.mem_flatMap.mpr ⟨t, t.mem_all, h⟩)

theorem mem_everyField_of_mem_allFields {type : Text} {f : Field} (h : f ∈ allFields type) :
    f ∈ everyField := by
  rcases mem_foldl_override h with h | h
  · cases h
  · exact mem_everyField_of_mem_parts h

theorem mem_everyField_of_mem_globalDiscoveryFields {f : Field}
    (h : f ∈ globalDiscoveryFields) : f ∈ everyField := by
  simp [everyField, h]

end Catalogue

/-- No value is asked for, a selection offers something, and the step of whole numbers is the one
that is worth one. -/
def Field.isRegular (f : Field) : Bool :=
  !f.required && match f.kind with
    | .select choices => !choices.isEmpty
    | .number _ _ (some step) => (step == wholeStep) == (step.value == 1)
    | _ => true

theorem Catalogue.everyField_regular : everyField.all Field.isRegular = true := by
  decide +kernel

end GatewayConfig
