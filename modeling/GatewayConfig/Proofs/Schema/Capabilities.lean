import GatewayConfig.Proofs.Schema.Catalogue
import GatewayConfig.Schema.Catalogue
import Mathlib.Data.List.Perm.Basic

/-! # What a report opens

A report of the runtime lists types by name, among them names that the catalogue does not know.
Whether the listed types count, or all types but one, is decided by the known names alone. Main
statements: which reports open what they list and nothing else; and whatever the runtime reports,
the groups of the catalogue, cut down to the types that can be created, divide these up.
-/

namespace GatewayConfig

theorem Catalogue.exists_group (t : InterfaceType) : ∃ g ∈ groups, t ∈ g.types := by
  cases t <;> decide

namespace Capabilities

theorem mem_knownTypes {names : List Text} {t : InterfaceType} :
    t ∈ knownTypes names ↔ t.name ∈ names := by
  rw [knownTypes, List.mem_filter, List.contains_iff_mem]
  exact and_iff_right t.mem_all

/-- The names that are listed count as soon as one of them is known. -/
theorem mem_supported_of_known {caps : Capabilities}
    (h : ∃ t : InterfaceType, t.name ∈ caps.supportedTypes) (t : InterfaceType) :
    t ∈ supported (some caps) ↔ t.name ∈ caps.supportedTypes := by
  obtain ⟨u, hu⟩ := h
  have hne : ¬(knownTypes caps.supportedTypes).isEmpty = true := by
    rw [List.isEmpty_iff]
    exact List.ne_nil_of_mem (mem_knownTypes.mpr hu)
  rw [supported, if_neg hne, mem_knownTypes]

/-- A report without a known name is as good as none. -/
theorem supported_of_unknown {caps : Capabilities}
    (h : ¬∃ t : InterfaceType, t.name ∈ caps.supportedTypes) :
    supported (some caps) = supported none := by
  have hnil : knownTypes caps.supportedTypes = [] := by
    rw [List.eq_nil_iff_forall_not_mem]
    exact fun t ht => h ⟨t, mem_knownTypes.mp ht⟩
  rw [supported, hnil]
  rfl

theorem isCreatable_iff {caps : Option Capabilities} {type : Text} :
    isCreatable caps type = true ↔ ∃ t ∈ supported caps, t.name = type := by
  simp only [isCreatable, creatableGroups, List.any_eq_true, List.mem_filter, List.mem_map,
    beq_iff_eq]
  constructor
  · rintro ⟨_, ⟨⟨g, -, rfl⟩, -⟩, t, ht, rfl⟩
    exact ⟨t, List.contains_iff_mem.mp (List.mem_filter.mp ht).2, rfl⟩
  · rintro ⟨t, ht, rfl⟩
    obtain ⟨g, hg, htg⟩ := Catalogue.exists_group t
    have hkept : t ∈ g.types.filter (supported caps).contains :=
      List.mem_filter.mpr ⟨htg, List.contains_iff_mem.mpr ht⟩
    refine ⟨_, ⟨⟨g, hg, rfl⟩, ?_⟩, t, hkept, rfl⟩
    simpa using List.ne_nil_of_mem hkept

/-- A report opens the types that it names and no others exactly if it names one that is known.
If it names none, it opens what is open without a report. -/
theorem supported_iff_listed_iff (caps : Capabilities) :
    (((∀ t, t ∈ supported (some caps) ↔ t.name ∈ caps.supportedTypes) ∧
        ∀ type, isCreatable (some caps) type = true → type ∈ caps.supportedTypes) ↔
      ∃ t : InterfaceType, t.name ∈ caps.supportedTypes) ∧
    ((∃ t : InterfaceType, t.name ∈ caps.supportedTypes) ∨
      supported (some caps) = supported none) := by
  have hopen : InterfaceType.auto ∈ supported none := by decide
  by_cases hknown : ∃ t : InterfaceType, t.name ∈ caps.supportedTypes
  · have hlisted := mem_supported_of_known hknown
    refine ⟨iff_of_true ⟨hlisted, fun type htype => ?_⟩ hknown, .inl hknown⟩
    obtain ⟨t, ht, rfl⟩ := isCreatable_iff.mp htype
    exact (hlisted t).mp ht
  · have hsame := supported_of_unknown hknown
    refine ⟨iff_of_false ?_ hknown, .inr hsame⟩
    rintro ⟨hlisted, -⟩
    rw [hsame] at hlisted
    exact hknown ⟨_, (hlisted _).mp hopen⟩

theorem supported_widens_unknown :
    let caps : Capabilities := { supportedTypes := ["QuantumInterface".toList] }
    caps.supportedTypes ≠ [] ∧
      (∃ t ∈ supported (some caps), t.name ∉ caps.supportedTypes) ∧
      isCreatable (some caps) "AutoInterface".toList = true ∧
      "AutoInterface".toList ∉ caps.supportedTypes := by
  decide +kernel

end Capabilities

/-- The groups hold each of the types once and nothing else, and none of them is empty. Groups and
types stand in the order in which the catalogue has them. -/
structure TypeGroup.Divide (groups : List TypeGroup) (types : List InterfaceType) : Prop where
  nodup : (groups.flatMap (·.types)).Nodup
  perm : (groups.flatMap (·.types)).Perm types
  types_ne_nil : ∀ g ∈ groups, g.types ≠ []
  groups_ordered : (groups.map (·.label)).Sublist (Catalogue.groups.map (·.label))
  types_ordered : ∀ g ∈ groups, g.types.Sublist InterfaceType.all ∧
    ∃ whole ∈ Catalogue.groups, g.label = whole.label ∧ g.types.Sublist whole.types

theorem InterfaceType.nodup_all : all.Nodup := by decide

namespace Catalogue

theorem nodup_groups : (groups.flatMap (·.types)).Nodup := by decide

/-- The order within a group is that of all types. -/
theorem groups_ordered : ∀ g ∈ groups, g.types.Sublist InterfaceType.all := by decide

theorem mem_groups (t : InterfaceType) : t ∈ groups.flatMap (·.types) :=
  List.mem_flatMap.mpr (exists_group t)

end Catalogue

namespace Capabilities

def listedNames (caps : Option Capabilities) : List Text := caps.elim [] (·.supportedTypes)

theorem supported_eq (caps : Option Capabilities) : supported caps =
    if (knownTypes (listedNames caps)).isEmpty then
      InterfaceType.all.filter (· != Catalogue.excludedType)
    else knownTypes (listedNames caps) := by
  cases caps <;> rfl

theorem nodup_supported (caps : Option Capabilities) : (supported caps).Nodup := by
  rw [supported_eq]
  split
  · exact InterfaceType.nodup_all.filter _
  · exact InterfaceType.nodup_all.filter _

theorem flatMap_types_cut (p : InterfaceType → Bool) (groups : List TypeGroup) :
    ((groups.map fun g => { g with types := g.types.filter p }).filter
        (!·.types.isEmpty)).flatMap (·.types) =
      (groups.flatMap (·.types)).filter p := by
  induction groups with
  | nil => rfl
  | cons g groups ih =>
    rw [List.map_cons, List.filter_cons, List.flatMap_cons, List.filter_append, ← ih]
    cases hcut : g.types.filter p <;> simp

theorem flatMap_types_creatableGroups (caps : Option Capabilities) :
    (creatableGroups caps).flatMap (·.types) =
      (Catalogue.groups.flatMap (·.types)).filter (supported caps).contains :=
  flatMap_types_cut _ _

theorem exists_of_mem_creatableGroups {caps : Option Capabilities} {g : TypeGroup}
    (h : g ∈ creatableGroups caps) : g.types ≠ [] ∧
      ∃ whole ∈ Catalogue.groups,
        g = { whole with types := whole.types.filter (supported caps).contains } := by
  obtain ⟨hmem, hne⟩ := List.mem_filter.mp h
  obtain ⟨whole, hwhole, rfl⟩ := List.mem_map.mp hmem
  exact ⟨by simpa using hne, whole, hwhole, rfl⟩

theorem divide_creatableGroups (caps : Option Capabilities) :
    TypeGroup.Divide (creatableGroups caps) (supported caps) where
  nodup := by
    rw [flatMap_types_creatableGroups]
    exact Catalogue.nodup_groups.filter _
  perm := by
    rw [flatMap_types_creatableGroups]
    refine (List.perm_ext_iff_of_nodup (Catalogue.nodup_groups.filter _)
      (nodup_supported caps)).mpr fun t => ?_
    rw [List.mem_filter, List.contains_iff_mem]
    exact and_iff_right (Catalogue.mem_groups t)
  types_ne_nil := fun _ hg => (exists_of_mem_creatableGroups hg).1
  groups_ordered := by
    have hlabels : Catalogue.groups.map (·.label) = (Catalogue.groups.map fun g =>
        { g with types := g.types.filter (supported caps).contains }).map (·.label) := by
      rw [List.map_map]
      rfl
    rw [hlabels]
    exact List.filter_sublist.map _
  types_ordered := by
    intro g hg
    obtain ⟨-, whole, hwhole, rfl⟩ := exists_of_mem_creatableGroups hg
    have hcut := List.filter_sublist (p := (supported caps).contains) (l := whole.types)
    exact ⟨hcut.trans (Catalogue.groups_ordered whole hwhole), whole, hwhole, rfl, hcut⟩

/-- What can be created depends on the known names in the report and on nothing else of it. -/
theorem supported_congr {caps other : Option Capabilities}
    (h : ∀ t : InterfaceType, t.name ∈ listedNames other ↔ t.name ∈ listedNames caps) :
    supported other = supported caps := by
  have hknown : knownTypes (listedNames other) = knownTypes (listedNames caps) := by
    apply List.filter_congr
    intro t _
    rw [Bool.eq_iff_iff, List.contains_iff_mem, List.contains_iff_mem, h t]
  rw [supported_eq, supported_eq, hknown]

/-- The groups that are shown divide up the types that can be created, and those are what can be
created by name. Reports that list the same known names, in whatever order and among whatever
other names, come to the same. -/
theorem creatableGroups_divide_supported (caps : Option Capabilities) :
    TypeGroup.Divide (creatableGroups caps) (supported caps) ∧
    (∀ type, isCreatable caps type = true ↔ ∃ t ∈ supported caps, t.name = type) ∧
    ∀ other, (∀ t : InterfaceType, t.name ∈ listedNames other ↔ t.name ∈ listedNames caps) →
      supported other = supported caps ∧ creatableGroups other = creatableGroups caps ∧
        isCreatable other = isCreatable caps := by
  refine ⟨divide_creatableGroups caps, fun type => isCreatable_iff, fun other hother => ?_⟩
  have hsupported := supported_congr hother
  have hgroups : creatableGroups other = creatableGroups caps := by
    rw [creatableGroups, hsupported, creatableGroups]
  exact ⟨hsupported, hgroups, funext fun type => by rw [isCreatable, hgroups, isCreatable]⟩

end Capabilities

end GatewayConfig
