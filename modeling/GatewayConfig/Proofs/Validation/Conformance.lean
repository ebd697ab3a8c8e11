import GatewayConfig.Proofs.Schema.Catalogue
import GatewayConfig.Proofs.Text.Trim
import GatewayConfig.Validation.Validate
import Mathlib.Data.Rat.Lemmas

/-! # What a valid document is

Conformance says what the values of a document have to be, with no mention of errors or of the
order in which they are looked for. A document is valid exactly when it conforms: each part of
the check has no findings exactly when the part that it looks at conforms.
-/

namespace GatewayConfig
open Text

/-- A value that a field of the kind accepts. -/
def FieldKind.Accepts (value : Text) : FieldKind → Prop
  | text | list => True
  | number min max step => ∃ x, numberOf? value = some x ∧ (∀ b ∈ min, b.value ≤ x.value) ∧
      (∀ b ∈ max, x.value ≤ b.value) ∧ ∀ s ∈ step, s.value = 1 → ∃ n : Int, x.value = n
  | boolean => keyForm value ∈ Flag.tokens
  | select choices => ∃ c ∈ choices, c.value = trim value

def Address.HostKey (key : Text) : Prop :=
  "_host".toList <:+ key ∨ "_ip".toList <:+ key ∨
    key ∈ ["reachable_on".toList, "listen_ip".toList, "listen_on".toList, "remote".toList]

/-- A key, in small letters, of a setting that has to be a network port. The plain key is one for
three of the types. -/
def Address.PortKey (type key : Text) : Prop :=
  "_port".toList <:+ key ∨ key = "port".toList ∧
    ∃ t ∈ [InterfaceType.backbone, .tcpServer, .udp], type = t.name

def Address.Port (value : Text) : Prop :=
  ∃ x, numberOf? value = some x ∧ 1 ≤ x.value ∧ x.value ≤ 65535 ∧ ∃ n : Int, x.value = n

/-- A setting whose value suits what its key says about it. -/
def Entry.Plausible (type : Text) (e : Entry) : Prop :=
  keyForm e.key ≠ [] → trim e.value ≠ [] →
    (Address.HostKey (keyForm e.key) → Address.isHost e.value = true) ∧
      (Address.PortKey type (keyForm e.key) → Address.Port e.value)

structure Interface.Conforms (i : Interface) : Prop where
  named : 1 ≤ (trim i.name).length
  name_short : (trim i.name).length ≤ 96
  typed : trim i.type ≠ []
  fields_accept : ∀ f ∈ Catalogue.allFields i.type, ∀ value ∈ i.firstValue? f.candidateKeys,
    f.kind.Accepts value
  requirements_met : ∀ r ∈ Requirement.ofTypeName i.type,
    ∃ key ∈ r.keys, ∃ value ∈ i.setting? key, trim value ≠ []
  settings_plausible : ∀ e ∈ i.settings, e.Plausible i.type

structure Document.Conforms (d : Document) : Prop where
  discovery_accepts : ∀ f ∈ Catalogue.globalDiscoveryFields,
    ∀ value ∈ Entries.get? (d.entries rootSection) f.key, trim value = [] ∨ f.kind.Accepts value
  sources_hexadecimal : ∀ source ∈ Entries.getList (d.entries rootSection) sourcesKey,
    source.length % 2 = 0 ∧ ∀ c ∈ source, Address.isHexDigit c = true
  interfaces_conform : ∀ i ∈ d.interfaces, i.Conforms

theorem Binary64.isIntegral_iff {x : Binary64} : x.isIntegral = true ↔ ∃ n : Int, x.value = n := by
  rw [isIntegral, beq_iff_eq]
  constructor
  · exact fun h => ⟨x.value.num, ((Rat.den_eq_one_iff _).mp h).symm⟩
  · rintro ⟨n, hn⟩
    rw [hn]
    rfl

theorem numberOf?_trim (value : Text) : numberOf? (trim value) = numberOf? value := by
  rw [numberOf?, trim_trim, numberOf?]

private theorem map_filter_eq_nil_iff {x : Option α} {p : α → Bool} {f : α → β} :
    (x.filter p).toList.map f = [] ↔ ∀ a ∈ x, p a = false := by
  cases x with
  | none => simp
  | some a => cases h : p a <;> simp [Option.filter, h]

theorem Binary64.faults_eq_nil_iff {x : Binary64} {min max step : Option Binary64} :
    x.faults min max step = [] ↔ (∀ b ∈ min, b.value ≤ x.value) ∧ (∀ b ∈ max, x.value ≤ b.value) ∧
      (step = some wholeStep → ∃ n : Int, x.value = n) := by
  rw [faults, List.append_eq_nil_iff, List.append_eq_nil_iff, map_filter_eq_nil_iff,
    map_filter_eq_nil_iff, ← isIntegral_iff, and_assoc]
  simp only [decide_eq_false_iff_not, Rat.not_lt]
  simp

namespace Field

theorem required_of_isRegular {f : Field} (h : f.isRegular = true) : f.required = false := by
  simp only [isRegular, Bool.and_eq_true, Bool.not_eq_true'] at h
  exact h.1

/-- A step has to be kept by whole numbers only if it is worth one. -/
theorem step_eq_wholeStep_iff {f : Field} (h : f.isRegular = true) {min max step : Option Binary64}
    (hkind : f.kind = .number min max step) {P : Prop} :
    (step = some wholeStep → P) ↔ ∀ s ∈ step, s.value = 1 → P := by
  rw [isRegular, hkind] at h
  cases step with
  | none => simp
  | some s =>
    have hone : s = wholeStep ↔ s.value = 1 := by
      have hsame : (s == wholeStep) = (s.value == 1) := beq_iff_eq.mp (Bool.and_eq_true_iff.mp h).2
      rw [Bool.eq_iff_iff, beq_iff_eq, beq_iff_eq] at hsame
      exact hsame
    simp [hone]

/-- What a kind of field accepts is what the check finds no fault with. -/
theorem kind_faults_eq_nil_iff {f : Field} (h : f.isRegular = true) (value : Text) :
    f.kind.faults f.required (trim value) = [] ↔ f.kind.Accepts value := by
  have hrequired := required_of_isRegular h
  cases hkind : f.kind with
  | text => simp [FieldKind.faults, FieldKind.Accepts]
  | list => simp [FieldKind.faults, FieldKind.Accepts, hrequired]
  | boolean => simp [FieldKind.faults, FieldKind.Accepts, Flag.isToken, keyForm_trim]
  | select choices =>
    have hoffers : choices.isEmpty = false := by
      simpa [isRegular, hrequired, hkind] using h
    simp [FieldKind.faults, FieldKind.Accepts, hoffers]
  | number min max step =>
    rw [FieldKind.faults, numberOf?_trim, FieldKind.Accepts]
    cases numberOf? value with
    | none => simp
    | some x =>
      rw [Binary64.faults_eq_nil_iff, step_eq_wholeStep_iff h hkind]
      simp

/-- A field has no findings exactly when its value is missing, blank or accepted. -/
theorem findings_eq_nil_iff {f : Field} (h : f ∈ Catalogue.everyField) (value : Option Text) :
    f.findings value = [] ↔ ∀ v ∈ value, trim v = [] ∨ f.kind.Accepts v := by
  have hregular := List.all_eq_true.mp Catalogue.everyField_regular f h
  rw [findings, List.map_eq_nil_iff, faults]
  cases value with
  | none => simp [required_of_isRegular hregular]
  | some v =>
    rw [Option.map_some]
    by_cases hblank : trim v = []
    · simp [hblank, Option.filter, required_of_isRegular hregular]
    · rw [Option.filter_some_pos (by simpa using hblank)]
      simp [hblank, kind_faults_eq_nil_iff hregular]

end Field

namespace Address

theorem isHostKey_iff {key : Text} : isHostKey key = true ↔ HostKey key := by
  simp [isHostKey, HostKey, or_assoc]

theorem hasNetworkPort_iff {type : Text} : hasNetworkPort type = true ↔
    ∃ t ∈ [InterfaceType.backbone, .tcpServer, .udp], type = t.name := by
  simp only [← InterfaceType.ofName?_eq_some_iff, hasNetworkPort]
  cases InterfaceType.ofName? type with
  | none => simp
  | some t => cases t <;> simp

theorem isPortKey_iff {type key : Text} : isPortKey type key = true ↔ PortKey type key := by
  simp [isPortKey, PortKey, hasNetworkPort_iff]

theorem isPort_iff {value : Text} : isPort value = true ↔ Port value := by
  rw [isPort, Port]
  cases numberOf? value with
  | none => simp
  | some x =>
    simp only [Option.any_some, Bool.and_eq_true, decide_eq_true_eq, Binary64.isIntegral_iff,
      Option.some.injEq, exists_eq_left']
    exact ⟨fun ⟨⟨hwhole, hlow⟩, hhigh⟩ => ⟨hlow, hhigh, hwhole⟩,
      fun ⟨hlow, hhigh, hwhole⟩ => ⟨⟨hwhole, hlow⟩, hhigh⟩⟩

end Address

/-- Everything that can be found about the address in a setting. -/
theorem Entry.mem_addressFindings_iff {type : Text} {e : Entry} {x : Finding} :
    x ∈ e.addressFindings type ↔ (keyForm e.key ≠ [] ∧ blank e.value = false) ∧
      ((Address.isHostKey (keyForm e.key) = true ∧ Address.isHost e.value = false) ∧
          x = ⟨e.key, .badHost e.key⟩ ∨
        (Address.isPortKey type (keyForm e.key) = true ∧ Address.isPort e.value = false) ∧
          x = ⟨e.key, .badPort e.key⟩) := by
  rw [addressFindings]
  split
  next hskip =>
    rw [Bool.or_eq_true, List.isEmpty_iff] at hskip
    rcases hskip with hskip | hskip
    · simp [hskip]
    · simp [hskip]
  next hskip =>
    rw [Bool.or_eq_true, List.isEmpty_iff, not_or, Bool.not_eq_true] at hskip
    simp [hskip]

theorem Entry.addressFindings_eq_nil_iff {type : Text} {e : Entry} :
    e.addressFindings type = [] ↔ e.Plausible type := by
  rw [addressFindings, Plausible, ← Address.isHostKey_iff, ← Address.isPortKey_iff,
    ← Address.isPort_iff]
  by_cases hkey : keyForm e.key = []
  · simp [hkey]
  · by_cases hvalue : trim e.value = []
    · simp [hvalue, blank]
    · simp [hkey, hvalue, blank]

namespace Interface

theorem headFindings_eq_nil_iff {i : Interface} : i.headFindings = [] ↔
    1 ≤ (trim i.name).length ∧ (trim i.name).length ≤ 96 ∧ trim i.type ≠ [] := by
  rw [headFindings, List.append_eq_nil_iff]
  simp only [List.isEmpty_iff, blank_iff, nameMax]
  by_cases hname : trim i.name = []
  · simp [hname]
  · have hpos : 1 ≤ (trim i.name).length := List.length_pos_iff.mpr hname
    by_cases hlong : 96 < (trim i.name).length
    · simp [hname, hlong]
    · simp [hname, hlong, hpos, Nat.le_of_not_lt hlong]

theorem not_blank_of_firstValue? {i : Interface} {keys : List Text} {value : Text}
    (h : i.firstValue? keys = some value) : trim value ≠ [] := by
  have := List.find?_some h
  simpa [blank] using this

theorem fieldFindings_eq_nil_iff {i : Interface} : i.fieldFindings = [] ↔
    ∀ f ∈ Catalogue.allFields i.type, ∀ value ∈ i.firstValue? f.candidateKeys,
      f.kind.Accepts value := by
  rw [fieldFindings, List.flatMap_eq_nil_iff]
  refine forall₂_congr fun f hf => ?_
  rw [Field.findings_eq_nil_iff (Catalogue.mem_everyField_of_mem_allFields hf)]
  refine forall₂_congr fun value hvalue => ?_
  simp [not_blank_of_firstValue? hvalue]

theorem hasAnyValue_iff {i : Interface} {keys : List Text} : i.hasAnyValue keys = true ↔
    ∃ key ∈ keys, ∃ value ∈ i.setting? key, trim value ≠ [] := by
  simp only [hasAnyValue, firstValue?, List.find?_isSome, List.mem_filterMap, Bool.not_eq_true',
    blank_eq_false_iff]
  constructor
  · rintro ⟨value, ⟨key, hkey, hvalue⟩, hne⟩
    exact ⟨key, hkey, value, hvalue, hne⟩
  · rintro ⟨key, hkey, value, hvalue, hne⟩
    exact ⟨value, ⟨key, hkey, hvalue⟩, hne⟩

theorem requirementFindings_eq_nil_iff {i : Interface} : i.requirementFindings = [] ↔
    ∀ r ∈ Requirement.ofTypeName i.type,
      ∃ key ∈ r.keys, ∃ value ∈ i.setting? key, trim value ≠ [] := by
  rw [requirementFindings, List.map_eq_nil_iff, List.filter_eq_nil_iff]
  refine forall₂_congr fun r _ => ?_
  rw [← hasAnyValue_iff, Bool.not_eq_true, Bool.not_eq_false']

theorem findings_eq_nil_iff {i : Interface} : i.findings = [] ↔ i.Conforms := by
  rw [findings, List.append_eq_nil_iff, List.append_eq_nil_iff, List.append_eq_nil_iff,
    headFindings_eq_nil_iff, fieldFindings_eq_nil_iff, requirementFindings_eq_nil_iff,
    List.flatMap_eq_nil_iff]
  simp only [Entry.addressFindings_eq_nil_iff]
  constructor
  · rintro ⟨⟨⟨⟨hnamed, hshort, htyped⟩, hfields⟩, hrequirements⟩, hsettings⟩
    exact ⟨hnamed, hshort, htyped, hfields, hrequirements, hsettings⟩
  · rintro ⟨hnamed, hshort, htyped, hfields, hrequirements, hsettings⟩
    exact ⟨⟨⟨⟨hnamed, hshort, htyped⟩, hfields⟩, hrequirements⟩, hsettings⟩

end Interface

theorem ValueList.ne_nil_of_mem_read {value item : Text} (h : item ∈ read value) : item ≠ [] := by
  simpa using (List.mem_filter.mp h).2

theorem ValueList.trim_of_mem_read {value item : Text} (h : item ∈ read value) :
    trim item = item := by
  obtain ⟨raw, -, rfl⟩ := List.mem_map.mp (List.mem_filter.mp h).1
  exact trim_trim raw

theorem Entries.mem_getList {entries : List Entry} {key item : Text}
    (h : item ∈ getList entries key) : ∃ value, item ∈ ValueList.read value := by
  rw [getList] at h
  split at h
  next value _ => exact ⟨value, h⟩
  next => cases h

theorem Address.isIdentity_iff {value source : Text} (h : source ∈ ValueList.read value) :
    isIdentity source = true ↔
      source.length % 2 = 0 ∧ ∀ c ∈ source, isHexDigit c = true := by
  simp [isIdentity, ValueList.trim_of_mem_read h, ValueList.ne_nil_of_mem_read h]

theorem Entries.discoveryFindings_eq_nil_iff {root : List Entry} :
    discoveryFindings root = [] ↔
      (∀ f ∈ Catalogue.globalDiscoveryFields, ∀ value ∈ get? root f.key,
        trim value = [] ∨ f.kind.Accepts value) ∧
      ∀ source ∈ getList root sourcesKey,
        source.length % 2 = 0 ∧ ∀ c ∈ source, Address.isHexDigit c = true := by
  rw [discoveryFindings, List.append_eq_nil_iff, List.flatMap_eq_nil_iff, List.map_eq_nil_iff,
    List.filter_eq_nil_iff]
  refine and_congr ?_ ?_
  · refine forall₂_congr fun f hf => ?_
    exact Field.findings_eq_nil_iff (Catalogue.mem_everyField_of_mem_globalDiscoveryFields hf) _
  · have hidentity : ∀ source ∈ getList root sourcesKey, Address.isIdentity source = true ↔
        source.length % 2 = 0 ∧ ∀ c ∈ source, Address.isHexDigit c = true := by
      intro source hsource
      obtain ⟨value, hvalue⟩ := mem_getList hsource
      exact Address.isIdentity_iff hvalue
    constructor
    · intro h source hsource
      obtain ⟨k, hk, rfl⟩ := List.getElem_of_mem hsource
      have hmem := List.mk_mem_zipIdx_iff_getElem?.mpr (List.getElem?_eq_getElem hk)
      exact (hidentity _ hsource).mp (by simpa using h _ hmem)
    · rintro h ⟨source, k⟩ hmem
      have hsource := List.fst_mem_of_mem_zipIdx hmem
      simpa using (hidentity source hsource).mpr (h source hsource)

namespace Document

/-- Every error reports a finding about the root section or one about an interface. -/
theorem mem_errors_iff {d : Document} {error : Issue} : error ∈ d.errors ↔
    (∃ x ∈ Entries.discoveryFindings (d.entries rootSection), x.issue rootSection = error) ∨
      ∃ (position : Nat) (i : Interface), i ∈ d.interfaces[position]? ∧
        ∃ x ∈ i.findings, x.issue (interfacePath position) = error := by
  rw [errors, List.mem_append, List.mem_map, List.mem_flatten]
  simp only [List.mem_mapIdx, Option.mem_def, List.getElem?_eq_some_iff]
  refine or_congr_right ⟨?_, ?_⟩
  · rintro ⟨_, ⟨position, hposition, rfl⟩, herror⟩
    exact ⟨position, _, ⟨hposition, rfl⟩, List.mem_map.mp herror⟩
  · rintro ⟨position, _, ⟨hposition, rfl⟩, herror⟩
    exact ⟨_, ⟨position, hposition, rfl⟩, List.mem_map.mpr herror⟩

theorem errors_eq_nil_iff {d : Document} : d.errors = [] ↔ d.Conforms := by
  have hinterfaces : (d.interfaces.mapIdx fun position i =>
      i.findings.map (·.issue (interfacePath position))).flatten = [] ↔
        ∀ i ∈ d.interfaces, i.Conforms := by
    simp only [List.flatten_eq_nil_iff, List.mem_mapIdx, ← Interface.findings_eq_nil_iff]
    constructor
    · intro h i hi
      obtain ⟨k, hk, rfl⟩ := List.getElem_of_mem hi
      exact List.map_eq_nil_iff.mp (h _ ⟨k, hk, rfl⟩)
    · rintro h _ ⟨k, hk, rfl⟩
      rw [h _ (List.getElem_mem hk), List.map_nil]
  rw [errors, List.append_eq_nil_iff, List.map_eq_nil_iff, Entries.discoveryFindings_eq_nil_iff,
    hinterfaces]
  exact ⟨fun ⟨⟨hfields, hsources⟩, hinterfaces⟩ => ⟨hfields, hsources, hinterfaces⟩,
    fun h => ⟨⟨h.discovery_accepts, h.sources_hexadecimal⟩, h.interfaces_conform⟩⟩

/-- A document is valid exactly when it conforms. -/
theorem valid_validate_iff (d : Document) : d.validate.valid = true ↔ d.Conforms := by
  rw [validate, Verdict.ofIssues, List.isEmpty_iff, errors_eq_nil_iff]

end Document

end GatewayConfig
