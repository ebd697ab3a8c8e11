import GatewayConfig.Proofs.Interface
import GatewayConfig.Proofs.Validation.Conformance
import GatewayConfig.Proofs.Validation.Paths
import Mathlib.Tactic.MkIffOfInductiveProp

/-! # Flags are read as they are checked

The check of a flag asks for one of ten words. A reader looks for one of five words that set the
flag or of five that clear it, and brings along a default for everything else. These are the same
words, so an error is reported for a flag exactly if its value is stated and the reading of it
depends on the default. Main statement: this for the two flags that the warnings go by.
-/

namespace GatewayConfig
open Text

namespace Flag

/-- The words that are offered are the words that a reader knows, each of them once. -/
theorem tokens_perm : tokens.Perm (trueTokens ++ falseTokens) := by decide

theorem isToken_iff {value : Text} :
    isToken value = true ↔ keyForm value ∈ trueTokens ∨ keyForm value ∈ falseTokens := by
  rw [isToken, List.contains_iff_mem, tokens_perm.mem_iff, List.mem_append]

/-- What is read is not the same with either default. -/
def DependsOnDefault (value : Option Text) : Prop := read? value true ≠ read? value false

instance : DecidablePred DependsOnDefault := fun _ => inferInstanceAs (Decidable (_ ≠ _))

theorem dependsOnDefault_none : DependsOnDefault none := by decide

theorem dependsOnDefault_some_iff {value : Text} :
    DependsOnDefault (some value) ↔ isToken value = false := by
  rw [← Bool.not_eq_true, isToken_iff, DependsOnDefault, read?, read?, read, read,
    List.contains_eq_mem, List.contains_eq_mem]
  by_cases hset : keyForm value ∈ trueTokens
  · simp [hset]
  · by_cases hcleared : keyForm value ∈ falseTokens
    · simp [hset, hcleared]
    · simp [hset, hcleared]

/-- It does not matter which default the other ones are compared with. -/
theorem dependsOnDefault_iff_exists {value : Option Text} (fixed : Bool) :
    DependsOnDefault value ↔ ∃ default, read? value default ≠ read? value fixed := by
  cases fixed with
  | false => simp [DependsOnDefault]
  | true => simp [DependsOnDefault, eq_comm]

theorem isToken_of_blank {value : Text} (h : blank value = true) : isToken value = false := by
  have hform : keyForm value = [] := by rw [keyForm, blank_iff.mp h]; rfl
  rw [isToken, hform]
  rfl

/-- The default matters just where the value is missing or blank, exactly if it matters to no value
that is stated. -/
theorem dependsOnDefault_iff_blank_iff {value : Option Text} :
    (DependsOnDefault value ↔ ∀ v ∈ value, blank v = true) ↔
      ¬∃ v ∈ value, blank v = false ∧ DependsOnDefault (some v) := by
  cases value with
  | none => simp [dependsOnDefault_none]
  | some v =>
    cases hblank : blank v with
    | true => simp [hblank, dependsOnDefault_some_iff, isToken_of_blank hblank]
    | false => simp [hblank]

end Flag

namespace Field

theorem key_of_mem_findings {f : Field} {value : Option Text} {x : Finding}
    (h : x ∈ f.findings value) : x.key = f.key := by
  obtain ⟨fault, -, rfl⟩ := List.mem_map.mp h
  rfl

/-- The check finds something about a flag exactly if its value is stated and the reading of it
depends on the default. -/
theorem findings_ne_nil_iff {f : Field} (hf : f ∈ Catalogue.everyField) (hkind : f.kind = .boolean)
    {value : Option Text} : f.findings value ≠ [] ↔
      ∃ v ∈ value, blank v = false ∧ Flag.DependsOnDefault (some v) := by
  simp only [ne_eq, findings_eq_nil_iff hf, hkind, FieldKind.Accepts, not_forall, not_or,
    exists_prop, Flag.dependsOnDefault_some_iff, Flag.isToken, blank_eq_false_iff,
    List.contains_eq_mem, decide_eq_false_iff_not]

/-- Nothing is reported under the field's key but what the check of the field finds. Other fields,
the name and the type, requirements, addresses and items of a list are reported under other keys. -/
@[mk_iff]
structure OwnsKey (f : Field) : Prop where
  only_field : ∀ g ∈ Catalogue.everyField, g.key = f.key → g = f
  not_head : f.key ≠ "name".toList ∧ f.key ≠ typeKey
  not_required : ∀ t ∈ InterfaceType.all, ∀ r ∈ Requirement.ofType t, r.key ≠ f.key
  not_host : Address.isHostKey (keyForm f.key) = false
  not_port : ¬"_port".toList <:+ keyForm f.key ∧ keyForm f.key ≠ "port".toList
  not_item : '[' ∉ f.key

instance : DecidablePred OwnsKey := fun f => decidable_of_iff _ (ownsKey_iff f).symm

theorem ownsKey_of_boolean :
    ∀ f ∈ Catalogue.everyField, f.kind = .boolean → f.OwnsKey := by
  decide +kernel

theorem OwnsKey.eq_of_mem_findings {f g : Field} (h : f.OwnsKey) (hg : g ∈ Catalogue.everyField)
    {value : Option Text} {x : Finding} (hx : x ∈ g.findings value) (hkey : x.key = f.key) :
    g = f :=
  h.only_field g hg ((key_of_mem_findings hx).symm.trans hkey)

end Field

/-- The fields of a type hold each shared one and each of its own whose key is no other's. -/
theorem Catalogue.mem_allFields_of_ownsKey {type : Text} {f : Field} (h : f.OwnsKey)
    (hf : f ∈ commonFields ++ discoveryFields ++ ownFields type) : f ∈ allFields type := by
  refine mem_foldl_override_of_mem (.inr hf) ?_
  intro g hg hkey
  exact h.only_field g (mem_everyField_of_mem_parts hg) hkey

theorem Entries.mem_findings_of_ownsKey {root : List Entry} {f : Field} (h : f.OwnsKey)
    {x : Finding} (hx : x ∈ discoveryFindings root) (hkey : x.key = f.key) :
    x ∈ f.findings (get? root f.key) := by
  rcases List.mem_append.mp hx with hx | hx
  · obtain ⟨g, hg, hx⟩ := List.mem_flatMap.mp hx
    have hmem := Catalogue.mem_everyField_of_mem_globalDiscoveryFields hg
    rwa [h.eq_of_mem_findings hmem hx hkey] at hx
  · obtain ⟨⟨source, n⟩, -, rfl⟩ := List.mem_map.mp hx
    have hbracket : '[' ∈ itemPath sourcesKey n := by simp [itemPath]
    exact absurd (hkey ▸ hbracket) h.not_item

theorem Entry.isKey_of_mem_addressFindings {type : Text} {e : Entry} {x : Finding}
    (hx : x ∈ e.addressFindings type) :
    Address.isHostKey (keyForm x.key) = true ∨ Address.isPortKey type (keyForm x.key) = true := by
  obtain ⟨-, ⟨⟨hhost, -⟩, rfl⟩ | ⟨⟨hport, -⟩, rfl⟩⟩ := Entry.mem_addressFindings_iff.mp hx
  · exact .inl hhost
  · exact .inr hport

namespace Interface

theorem key_of_mem_headFindings {i : Interface} {x : Finding} (hx : x ∈ i.headFindings) :
    x.key = "name".toList ∨ x.key = typeKey := by
  rcases List.mem_append.mp hx with hx | hx
  · split at hx
    next => exact .inl (congrArg Finding.key (List.mem_singleton.mp hx))
    next =>
      split at hx
      next => exact .inl (congrArg Finding.key (List.mem_singleton.mp hx))
      next => cases hx
  · split at hx
    next => exact .inr (congrArg Finding.key (List.mem_singleton.mp hx))
    next => cases hx

/-- Of the four parts of the check only that of the fields finds something under the key. -/
theorem mem_findings_of_ownsKey {i : Interface} {f : Field} (h : f.OwnsKey) {x : Finding}
    (hx : x ∈ i.findings) (hkey : x.key = f.key) :
    x ∈ f.findings (i.firstValue? f.candidateKeys) := by
  simp only [findings, List.mem_append, List.mem_flatMap] at hx
  rcases hx with ((hx | hx) | hx) | ⟨e, -, hx⟩
  · rcases key_of_mem_headFindings hx with hname | htype
    · exact absurd (hkey.symm.trans hname) h.not_head.1
    · exact absurd (hkey.symm.trans htype) h.not_head.2
  · obtain ⟨g, hg, hx⟩ := List.mem_flatMap.mp hx
    have hmem := Catalogue.mem_everyField_of_mem_allFields hg
    rwa [h.eq_of_mem_findings hmem hx hkey] at hx
  · obtain ⟨r, hr, rfl⟩ := List.mem_map.mp hx
    obtain ⟨t, -, hr⟩ := Requirement.exists_of_mem_ofTypeName (List.mem_of_mem_filter hr)
    exact absurd hkey (h.not_required t t.mem_all r hr)
  · rcases hkey ▸ Entry.isKey_of_mem_addressFindings hx with hhost | hport
    · rw [h.not_host] at hhost
      cases hhost
    · rcases Address.isPortKey_iff.mp hport with hsuffix | ⟨hplain, -⟩
      · exact absurd hsuffix h.not_port.1
      · exact absurd hplain h.not_port.2

end Interface

namespace Document

def ReportsAt (d : Document) (path : Text) : Prop := ∃ error ∈ d.validate.errors, error.path = path

theorem reportsAt_rootSection_iff {d : Document} {key : Text} :
    d.ReportsAt (rootSection ++ ".".toList ++ key) ↔
      ∃ x ∈ Entries.discoveryFindings (d.entries rootSection), x.key = key := by
  constructor
  · rintro ⟨error, herror, hpath⟩
    rcases mem_errors_iff.mp herror with ⟨x, hx, rfl⟩ | ⟨position, i, -, x, -, rfl⟩
    · exact ⟨x, hx, List.append_cancel_left hpath⟩
    · simp only [Finding.issue, List.append_assoc] at hpath
      exact absurd hpath.symm (rootSection_append_ne _ _ _)
  · rintro ⟨x, hx, rfl⟩
    exact ⟨_, mem_errors_iff.mpr (.inl ⟨x, hx, rfl⟩), rfl⟩

theorem reportsAt_interfacePath_iff {d : Document} {position : Nat} {key : Text} :
    d.ReportsAt (interfacePath position ++ ".".toList ++ key) ↔
      ∃ i ∈ d.interfaces[position]?, ∃ x ∈ i.findings, x.key = key := by
  constructor
  · rintro ⟨error, herror, hpath⟩
    rcases mem_errors_iff.mp herror with ⟨x, -, rfl⟩ | ⟨other, i, hi, x, hx, rfl⟩
    · simp only [Finding.issue, List.append_assoc] at hpath
      exact absurd hpath (rootSection_append_ne _ _ _)
    · simp only [Finding.issue, List.append_assoc] at hpath
      obtain ⟨rfl, hrest⟩ := interfacePath_append_inj hpath
      exact ⟨i, hi, x, hx, List.append_cancel_left hrest⟩
  · rintro ⟨i, hi, x, hx, rfl⟩
    exact ⟨_, mem_errors_iff.mpr (.inr ⟨position, i, hi, x, hx, rfl⟩), rfl⟩

/-- An error is reported for a flag of the root section exactly if its value is stated and the
reading of it depends on the default. -/
theorem reportsAt_rootFlag_iff {d : Document} {f : Field}
    (hf : f ∈ Catalogue.globalDiscoveryFields) (hkind : f.kind = .boolean) :
    d.ReportsAt (rootSection ++ ".".toList ++ f.key) ↔
      ∃ v ∈ d.global? f.key, blank v = false ∧ Flag.DependsOnDefault (some v) := by
  have hmem := Catalogue.mem_everyField_of_mem_globalDiscoveryFields hf
  rw [reportsAt_rootSection_iff, global?, ← Field.findings_ne_nil_iff hmem hkind]
  constructor
  · rintro ⟨x, hx, hkey⟩
    exact List.ne_nil_of_mem
      (Entries.mem_findings_of_ownsKey (Field.ownsKey_of_boolean f hmem hkind) hx hkey)
  · intro hne
    obtain ⟨x, hx⟩ := List.exists_mem_of_ne_nil _ hne
    exact ⟨x, List.mem_append_left _ (List.mem_flatMap.mpr ⟨f, hf, hx⟩),
      Field.key_of_mem_findings hx⟩

/-- The same for a flag of an interface, whose value may stand under several keys. -/
theorem reportsAt_flag_iff {d : Document} {position : Nat} {i : Interface}
    (hi : i ∈ d.interfaces[position]?) {f : Field} (hf : f ∈ Catalogue.allFields i.type)
    (hkind : f.kind = .boolean) :
    d.ReportsAt (interfacePath position ++ ".".toList ++ f.key) ↔
      ∃ v ∈ i.firstValue? f.candidateKeys, blank v = false ∧ Flag.DependsOnDefault (some v) := by
  have hmem := Catalogue.mem_everyField_of_mem_allFields hf
  rw [reportsAt_interfacePath_iff, Option.mem_def.mp hi, ← Field.findings_ne_nil_iff hmem hkind]
  constructor
  · rintro ⟨_, ⟨rfl⟩, x, hx, hkey⟩
    exact List.ne_nil_of_mem
      (Interface.mem_findings_of_ownsKey (Field.ownsKey_of_boolean f hmem hkind) hx hkey)
  · intro hne
    obtain ⟨x, hx⟩ := List.exists_mem_of_ne_nil _ hne
    refine ⟨i, rfl, x, ?_, Field.key_of_mem_findings hx⟩
    simp only [Interface.findings, Interface.fieldFindings, List.mem_append, List.mem_flatMap]
    exact .inl (.inl (.inr ⟨f, hf, hx⟩))

end Document

theorem Catalogue.exists_discoverable (type : Text) : ∃ f ∈ allFields type,
    f.key = "discoverable".toList ∧ f.aliases = [] ∧ f.kind = .boolean := by
  have hshared : ∃ f ∈ discoveryFields,
      f.key = "discoverable".toList ∧ f.aliases = [] ∧ f.kind = .boolean := by
    decide +kernel
  obtain ⟨f, hf, hkey, haliases, hkind⟩ := hshared
  have hpart : f ∈ commonFields ++ discoveryFields ++ ownFields type := by simp [hf]
  have howns : f.OwnsKey := Field.ownsKey_of_boolean f (mem_everyField_of_mem_parts hpart) hkind
  exact ⟨f, mem_allFields_of_ownsKey howns hpart, hkey, haliases, hkind⟩

theorem Catalogue.exists_discovers : ∃ f ∈ globalDiscoveryFields,
    f.key = "discover_interfaces".toList ∧ f.kind = .boolean := by
  decide +kernel

namespace Document

theorem reportsAt_discovers_iff {d : Document} :
    d.ReportsAt (rootSection ++ ".discover_interfaces".toList) ↔
      ∃ v ∈ d.global? "discover_interfaces".toList,
        blank v = false ∧ Flag.DependsOnDefault (some v) := by
  obtain ⟨f, hf, hkey, hkind⟩ := Catalogue.exists_discovers
  rw [← hkey, ← reportsAt_rootFlag_iff hf hkind, hkey, List.append_assoc]
  rfl

theorem reportsAt_discoverable_iff {d : Document} {position : Nat} {i : Interface}
    (hi : i ∈ d.interfaces[position]?) :
    d.ReportsAt (interfacePath position ++ ".discoverable".toList) ↔
      ∃ v ∈ i.setting? "discoverable".toList,
        blank v = false ∧ Flag.DependsOnDefault (some v) := by
  obtain ⟨f, hf, hkey, haliases, hkind⟩ := Catalogue.exists_discoverable i.type
  -- With no other spelling, the first stated value is that of the setting itself.
  have hfirst (v : Text) : v ∈ i.firstValue? f.candidateKeys ↔
      v ∈ i.setting? "discoverable".toList ∧ blank v = false := by
    rw [Field.candidateKeys, hkey, haliases, Interface.firstValue?_cons]
    simp [Interface.firstValue?]
  have hreports := reportsAt_flag_iff hi hf hkind
  rw [hkey, List.append_assoc] at hreports
  simp only [hfirst, and_assoc, and_self_left] at hreports
  exact hreports

/-- The words that pass the check of a flag are those that are read alike with either default. So no
error is reported for a flag that the warnings go by exactly if another default would change what
they take it for just where it is missing or blank. -/
theorem flags_read_as_checked (d : Document) :
    (∀ value : Text, Flag.isToken value = true ↔
      Flag.read? (some value) true = Flag.read? (some value) false) ∧
    (¬d.ReportsAt (rootSection ++ ".discover_interfaces".toList) ↔
      ((∃ default, Flag.read? (d.global? "discover_interfaces".toList) default ≠ d.discovers) ↔
        ∀ value ∈ d.global? "discover_interfaces".toList, blank value = true)) ∧
    ∀ position, ∀ i ∈ d.interfaces[position]?,
      (¬d.ReportsAt (interfacePath position ++ ".discoverable".toList) ↔
        ((∃ default, Flag.read? (i.setting? "discoverable".toList) default ≠ i.isDiscoverable) ↔
          ∀ value ∈ i.setting? "discoverable".toList, blank value = true)) := by
  refine ⟨fun value => ?_, ?_, fun position i hi => ?_⟩
  · rw [← Bool.not_eq_false, ← Flag.dependsOnDefault_some_iff, Flag.DependsOnDefault, not_not]
  · rw [reportsAt_discovers_iff, discovers, ← Flag.dependsOnDefault_iff_exists,
      Flag.dependsOnDefault_iff_blank_iff]
  · rw [reportsAt_discoverable_iff hi, Interface.isDiscoverable,
      ← Flag.dependsOnDefault_iff_exists, Flag.dependsOnDefault_iff_blank_iff]

theorem flags_read_as_checked_hidden :
    let d := read ("[reticulum]\ndiscover_interfaces =\nDiscover_Interfaces = maybe\n" ++
      "[interfaces]\n[[Roof]]\ntype = RadioInterface\nDISCOVERABLE = maybe\n").toList 0
    let i : Interface :=
      { name := "Roof".toList, type := "RadioInterface".toList,
        settings := [⟨"DISCOVERABLE".toList, "maybe".toList⟩] }
    i ∈ d.interfaces[0]? ∧ d.ReportsAt (interfacePath 0 ++ ".discoverable".toList) ∧
      ¬d.ReportsAt (rootSection ++ ".discover_interfaces".toList) ∧
      Flag.read? (d.global? "discover_interfaces".toList) true ≠ d.discovers := by
  intro d i
  have hread : i ∈ d.interfaces[0]? ∧
      Flag.read? (d.global? "discover_interfaces".toList) true ≠ d.discovers ∧
      ∀ value ∈ d.global? "discover_interfaces".toList, blank value = true := by
    decide +kernel
  have hstated : Flag.read? (i.setting? "discoverable".toList) true ≠ i.isDiscoverable ∧
      ¬∀ value ∈ i.setting? "discoverable".toList, blank value = true := by
    decide +kernel
  obtain ⟨hi, hdefault, hblank⟩ := hread
  obtain ⟨-, hroot, hinterface⟩ := flags_read_as_checked d
  refine ⟨hi, ?_, hroot.mpr (iff_of_true ⟨true, hdefault⟩ hblank), hdefault⟩
  by_contra hunreported
  exact hstated.2 (((hinterface 0 i hi).mp hunreported).mp ⟨true, hstated.1⟩)

end Document

end GatewayConfig
