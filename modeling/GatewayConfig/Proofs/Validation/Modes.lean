import GatewayConfig.Proofs.Interface
import GatewayConfig.Proofs.Validation.Paths

/-! # Warnings about the operating mode

An interface that announces itself should do so as a gateway or as an access point, which the
catalogue spells in four ways. The check knows three of them, and it looks at one key only, even if
the value there is blank. Main statement: when an interface is warned about, and for which
interfaces this is what the catalogue asks for.
-/

namespace GatewayConfig
open Text

/-- The modes that the catalogue labels as those of a gateway or of an access point. -/
def Catalogue.hostModes : List Text :=
  (modes.filter fun c =>
    "Gateway".toList.isPrefixOf c.label || "Access Point".toList.isPrefixOf c.label).map (·.value)

theorem Catalogue.hostModes_eq :
    hostModes = ["gateway".toList, "gw".toList, "access_point".toList, "ap".toList] := by
  decide +kernel

namespace Interface

/-- The operating mode in small letters: the first value that is not blank under the two keys for
it, the longer one first. -/
def operatingMode? (i : Interface) : Option Text :=
  (i.firstValue? ["interface_mode".toList, "mode".toList]).map keyForm

/-- The interface announces itself in a mode that is neither of a gateway nor of an access point. -/
def AnnouncesAmiss (i : Interface) : Prop :=
  i.isDiscoverable = true ∧ ∃ m ∈ i.operatingMode?, m ∉ Catalogue.hostModes

instance : DecidablePred AnnouncesAmiss := fun _ => inferInstanceAs (Decidable (_ ∧ _))

def HasBlankMode (i : Interface) : Prop :=
  ∃ value ∈ i.setting? "interface_mode".toList, blank value = true

instance : DecidablePred HasBlankMode := fun _ => inferInstanceAs (Decidable (∃ _ ∈ _, _))

theorem mode_of_hasBlankMode {i : Interface} (h : i.HasBlankMode) : i.mode = [] := by
  obtain ⟨value, hvalue, hblank⟩ := h
  rw [mode, Option.mem_def.mp hvalue, Option.some_or, Option.map_some, Option.getD_some, keyForm,
    blank_iff.mp hblank]
  rfl

/-- Unless a blank value stands in the way, the mode that the check looks at is the operating mode.
-/
theorem operatingMode?_eq_some_iff {i : Interface} (h : ¬i.HasBlankMode) {m : Text} :
    i.operatingMode? = some m ↔ m ≠ [] ∧ i.mode = m := by
  have hform (value : Text) : keyForm value = [] ↔ blank value = true := by
    rw [keyForm, lowerAscii_eq_nil_iff, blank_iff]
  have hstated {value : Text} (hvalue : blank value = false) :
      some (keyForm value) = some m ↔ m ≠ [] ∧ keyForm value = m := by
    have hne : keyForm value ≠ [] := by simp [hform, hvalue]
    rw [Option.some.injEq]
    exact ⟨fun hm => ⟨hm ▸ hne, hm⟩, And.right⟩
  -- If the long spelling is not blank, the first spelling and the first non-blank one are the same.
  have hchoose (long short : Option Text) (hlong : ∀ value ∈ long, blank value = false) :
      ((long.filter (!blank ·)).or ((short.filter (!blank ·)).or none)).map keyForm = some m ↔
        m ≠ [] ∧ ((long.or short).map keyForm).getD [] = m := by
    cases long with
    | some value =>
      have hvalue := hlong value rfl
      rw [Option.filter_some_pos (by simp [hvalue])]
      exact hstated hvalue
    | none =>
      cases short with
      | none => simp [eq_comm]
      | some value =>
        cases hvalue : blank value with
        | true => simp [Option.filter, hvalue, (hform value).mpr hvalue, eq_comm]
        | false =>
          rw [Option.filter_some_pos (by simp [hvalue])]
          exact hstated hvalue
  have hblank : ∀ value ∈ i.setting? "interface_mode".toList, blank value = false := by
    intro value hvalue
    rw [← Bool.not_eq_true]
    exact fun hblank => h ⟨value, hvalue, hblank⟩
  rw [operatingMode?, firstValue?_cons, firstValue?_cons, mode, ← hchoose _ _ hblank]
  rfl

theorem isMismatched_iff {i : Interface} : i.isMismatched = true ↔
    i.isDiscoverable = true ∧ ¬i.HasBlankMode ∧ ∃ m ∈ i.operatingMode?, m ∉ servingModes := by
  rw [isMismatched, Bool.and_eq_true, Bool.and_eq_true, and_assoc, Bool.not_eq_true',
    Bool.not_eq_true', List.isEmpty_eq_false_iff, List.contains_eq_mem, decide_eq_false_iff_not]
  refine and_congr_right fun _ => ?_
  by_cases h : i.HasBlankMode
  · simp [h, mode_of_hasBlankMode h]
  · simp only [Option.mem_def, operatingMode?_eq_some_iff h]
    simp [h]

/-- The check agrees with the catalogue about an interface that announces itself, unless the mode
is the one that it does not know or is hidden from it. -/
theorem isMismatched_iff_announcesAmiss_iff {i : Interface} :
    (i.isMismatched = true ↔ i.AnnouncesAmiss) ↔
      (i.isDiscoverable = true →
        if i.HasBlankMode then ∀ m ∈ i.operatingMode?, m ∈ Catalogue.hostModes
        else i.operatingMode? ≠ some "gw".toList) := by
  have hhosts (m : Text) : m ∈ Catalogue.hostModes ↔ m = "gw".toList ∨ m ∈ servingModes := by
    rw [Catalogue.hostModes_eq, servingModes]
    simp only [List.mem_cons, List.not_mem_nil, or_false]
    tauto
  have hunknown : "gw".toList ∉ servingModes := by decide
  rw [isMismatched_iff, AnnouncesAmiss]
  by_cases hannounced : i.isDiscoverable = true
  · by_cases hblank : i.HasBlankMode
    · simp [hannounced, hblank]
    · rw [if_neg hblank]
      cases hmode : i.operatingMode? with
      | none => simp
      | some m =>
        simp only [Option.mem_def, Option.some.injEq, exists_eq_left', ne_eq, hhosts, hblank,
          hannounced, not_false_eq_true, true_and, forall_const]
        have hgw : m = "gw".toList → m ∉ servingModes := fun hm => hm ▸ hunknown
        tauto
  · simp [hannounced]

end Interface

namespace Document

/-- A warning says that the interface at the position is discoverable in an unusual mode. -/
def WarnsOfMode (d : Document) (position : Nat) : Prop :=
  ∃ w ∈ d.validate.warnings, w.path = interfacePath position ++ ".discoverable".toList

instance (d : Document) : DecidablePred d.WarnsOfMode :=
  fun _ => inferInstanceAs (Decidable (∃ _ ∈ _, _))

/-- The path of a warning tells which interface caused it. -/
theorem warnsOfMode_iff_isMismatched {d : Document} {position : Nat} :
    d.WarnsOfMode position ↔ ∃ i ∈ d.interfaces[position]?, i.isMismatched = true := by
  constructor
  · rintro ⟨w, hw, hpath⟩
    rcases List.mem_append.mp hw with hw | hw
    · rcases List.mem_append.mp hw with hw | hw
      · obtain ⟨⟨i, k⟩, hi, rfl⟩ := List.mem_map.mp hw
        obtain ⟨hi, hmismatched⟩ := List.mem_filter.mp hi
        obtain ⟨rfl, -⟩ := interfacePath_append_inj hpath
        exact ⟨i, List.mk_mem_zipIdx_iff_getElem?.mp hi, hmismatched⟩
      · split at hw
        next =>
          rw [List.mem_singleton.mp hw] at hpath
          exact (rootSection_append_ne _ _ _ hpath).elim
        next => cases hw
    · split at hw
      next =>
        rw [List.mem_singleton.mp hw] at hpath
        exact (rootSection_append_ne _ _ _ hpath).elim
      next => cases hw
  · rintro ⟨i, hi, hmismatched⟩
    have hmem : (i, position) ∈ d.interfaces.zipIdx.filter (·.1.isMismatched) :=
      List.mem_filter.mpr ⟨List.mk_mem_zipIdx_iff_getElem?.mpr hi, hmismatched⟩
    exact ⟨_, List.mem_append_left _ (List.mem_append_left _ (List.mem_map_of_mem hmem)), rfl⟩

/-- An interface is warned about if it announces itself in a stated mode that is none of the three
known ones, unless a blank value hides the mode. This is what the catalogue asks for exactly where
no mode that is amiss is hidden and the mode is not the fourth that the catalogue labels so. -/
theorem warnsOfMode_iff (d : Document) (position : Nat) :
    (d.WarnsOfMode position ↔ ∃ i ∈ d.interfaces[position]?, i.isDiscoverable = true ∧
        ¬i.HasBlankMode ∧ ∃ m ∈ i.operatingMode?,
          m ∉ ["gateway".toList, "access_point".toList, "ap".toList]) ∧
      ((d.WarnsOfMode position ↔ ∃ i ∈ d.interfaces[position]?, i.AnnouncesAmiss) ↔
        ∀ i ∈ d.interfaces[position]?, i.isDiscoverable = true →
          if i.HasBlankMode then ∀ m ∈ i.operatingMode?, m ∈ Catalogue.hostModes
          else i.operatingMode? ≠ some "gw".toList) := by
  rw [warnsOfMode_iff_isMismatched]
  constructor
  · simp only [Interface.isMismatched_iff, Interface.servingModes]
  · cases d.interfaces[position]? with
    | none => simp
    | some i => simpa using Interface.isMismatched_iff_announcesAmiss_iff (i := i)

/-- The short spelling of the gateway mode is warned about, and a mode that is amiss is not when a
blank value hides it. -/
theorem warnsOfMode_short_and_hidden :
    let short := read "[interfaces]\n[[Roof]]\ndiscoverable = yes\nmode = gw\n".toList 0
    let hidden := read ("[interfaces]\n[[Roof]]\ndiscoverable = yes\ninterface_mode =\n" ++
      "mode = roaming\n").toList 0
    (short.WarnsOfMode 0 ∧ ¬∃ i ∈ short.interfaces[0]?, i.AnnouncesAmiss) ∧
      ¬hidden.WarnsOfMode 0 ∧ ∃ i ∈ hidden.interfaces[0]?, i.AnnouncesAmiss := by
  decide +kernel

end Document

end GatewayConfig
