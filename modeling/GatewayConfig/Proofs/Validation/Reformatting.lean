import GatewayConfig.Proofs.Document.Reload
import GatewayConfig.Proofs.Document.Writable
import GatewayConfig.Proofs.Validation.Conformance
import GatewayConfig.Proofs.Validation.Paths
import Mathlib.Tactic.NormNum

/-! # Checking a document that was written and read again

A check looks at the root section and at the interfaces, so documents with equal contents get
the same verdict. Names that are filled in take away the errors about missing names and cause no
other ones. Main statements: a text and its rewritten form differ in those errors alone; documents
with the same content are written alike and get the same verdict, and texts that are written alike
have the same content.
-/

namespace GatewayConfig
open Text

theorem FieldFault.label_isPrefix_message (label : Text) (fault : FieldFault) :
    label <+: fault.message label := by
  cases fault <;> simp [message]

theorem Catalogue.label_not_isPrefix {f : Field} (h : f ∈ everyField) :
    ¬f.label <+: Fault.nameMissing.message := by
  have hall : everyField.all (fun f => !f.label.isPrefixOf Fault.nameMissing.message) = true := by
    decide +kernel
  have hlabel := List.all_eq_true.mp hall f h
  rwa [Bool.not_eq_true', ← Bool.not_eq_true, List.isPrefixOf_iff_prefix] at hlabel

/-- Nor does it start like what is said about a requirement. -/
theorem Requirement.message_ne {t : InterfaceType} {r : Requirement} (h : r ∈ ofType t)
    (type : Text) : (Fault.unmet r type).message ≠ Fault.nameMissing.message := by
  have hall : (ofType t).all (fun r =>
      !(r.message.getD r.key).isPrefixOf Fault.nameMissing.message) = true := by
    cases t <;> decide +kernel
  have hstart : r.message.getD r.key <+: (Fault.unmet r type).message := by
    rw [show (Fault.unmet r type).message =
      r.message.getD (r.key ++ " is required for ".toList ++ type) from rfl]
    cases r.message with
    | some message => exact List.prefix_rfl
    | none => simp
  have hr := List.all_eq_true.mp hall r h
  rw [Bool.not_eq_true', ← Bool.not_eq_true, List.isPrefixOf_iff_prefix] at hr
  exact fun hmessage => hr (hmessage ▸ hstart)

namespace Finding

/-- The finding is reported by another message than the one about a missing name. -/
def IsOther (f : Finding) : Prop := f.fault.message ≠ Fault.nameMissing.message

instance : DecidablePred IsOther := fun _ => inferInstanceAs (Decidable (_ ≠ _))

theorem isOther_of_mem_findings_field {field : Field} (hfield : field ∈ Catalogue.everyField)
    {value : Option Text} {f : Finding} (h : f ∈ field.findings value) : f.IsOther := by
  obtain ⟨fault, -, rfl⟩ := List.mem_map.mp h
  intro hmessage
  apply Catalogue.label_not_isPrefix hfield
  rw [← hmessage]
  exact FieldFault.label_isPrefix_message field.label fault

theorem isOther_of_mem_discoveryFindings {root : List Entry} {f : Finding}
    (h : f ∈ Entries.discoveryFindings root) : f.IsOther := by
  rcases List.mem_append.mp h with h | h
  · obtain ⟨field, hfield, h⟩ := List.mem_flatMap.mp h
    exact isOther_of_mem_findings_field
      (Catalogue.mem_everyField_of_mem_globalDiscoveryFields hfield) h
  · obtain ⟨⟨source, k⟩, -, rfl⟩ := List.mem_map.mp h
    have hne : Fault.sourceIdentity.message ≠ Fault.nameMissing.message := by decide
    exact hne

theorem isOther_of_mem_fieldFindings {i : Interface} {f : Finding}
    (h : f ∈ i.fieldFindings) : f.IsOther := by
  obtain ⟨field, hfield, h⟩ := List.mem_flatMap.mp h
  exact isOther_of_mem_findings_field (Catalogue.mem_everyField_of_mem_allFields hfield) h

theorem isOther_of_mem_requirementFindings {i : Interface} {f : Finding}
    (h : f ∈ i.requirementFindings) : f.IsOther := by
  obtain ⟨r, hr, rfl⟩ := List.mem_map.mp h
  obtain ⟨t, -, hr⟩ := Requirement.exists_of_mem_ofTypeName (List.mem_of_mem_filter hr)
  exact Requirement.message_ne hr i.type

/-- The messages about addresses end in other characters. -/
theorem isOther_of_mem_addressFindings {type : Text} {e : Entry} {f : Finding}
    (h : f ∈ e.addressFindings type) : f.IsOther := by
  have hend {key words : Text} (hwords : words ≠ [])
      (hlast : words.getLast? ≠ Fault.nameMissing.message.getLast?) :
      key ++ words ≠ Fault.nameMissing.message := by
    intro heq
    rw [← heq, List.getLast?_append_of_ne_nil _ hwords] at hlast
    exact hlast rfl
  obtain ⟨-, ⟨-, rfl⟩ | ⟨-, rfl⟩⟩ := Entry.mem_addressFindings_iff.mp h
  · exact hend (by decide) (by decide)
  · exact hend (by decide) (by decide)

end Finding

namespace Interface

@[simp] theorem type_fillName (i : Interface) (k : Nat) : (i.fillName k).type = i.type := by
  unfold fillName
  split <;> rfl

@[simp] theorem settings_fillName (i : Interface) (k : Nat) :
    (i.fillName k).settings = i.settings := by
  unfold fillName
  split <;> rfl

@[simp] theorem setting?_fillName (i : Interface) (k : Nat) :
    (i.fillName k).setting? = i.setting? := by
  funext key
  rw [setting?, settings_fillName, setting?]

theorem length_countedName_le {k : Nat} (h : k < 2 ^ 64) : (countedName k).length ≤ nameMax := by
  have hdigits : (Text.ofNat (k + 1)).length ≤ 20 := by
    rw [Text.ofNat, Nat.length_toDigits_le_iff (by decide) (by decide)]
    exact (Nat.succ_le_of_lt h).trans_lt (by norm_num)
  have hlength : (countedName k).length = 10 + (Text.ofNat (k + 1)).length := List.length_append
  have hmax : nameMax = 96 := rfl
  omega

def typeFindings (i : Interface) : List Finding :=
  if blank i.type then [⟨typeKey, .typeMissing⟩] else []

theorem headFindings_of_blank {i : Interface} (h : blank i.name = true) :
    i.headFindings = ⟨"name".toList, .nameMissing⟩ :: i.typeFindings := by
  rw [headFindings, if_pos (show (trim i.name).isEmpty = true from h)]
  rfl

theorem headFindings_of_not_blank {i : Interface} (h : blank i.name = false) :
    i.headFindings =
      (if nameMax < (trim i.name).length then [⟨"name".toList, .nameTooLong⟩] else []) ++
        i.typeFindings := by
  rw [headFindings, if_neg (show ¬(trim i.name).isEmpty = true from Bool.not_eq_true _ ▸ h)]
  rfl

theorem isOther_of_mem_typeFindings {i : Interface} {f : Finding} (h : f ∈ i.typeFindings) :
    f.IsOther := by
  have hother : Finding.IsOther ⟨typeKey, .typeMissing⟩ := by decide
  rw [typeFindings] at h
  split at h
  next => rwa [List.mem_singleton.mp h]
  next => cases h

theorem isOther_of_mem_headFindings {i : Interface} (hname : blank i.name = false) {f : Finding}
    (h : f ∈ i.headFindings) : f.IsOther := by
  have hother : Finding.IsOther ⟨"name".toList, .nameTooLong⟩ := by decide
  rw [headFindings_of_not_blank hname, List.mem_append] at h
  rcases h with h | h
  · split at h
    next => rwa [List.mem_singleton.mp h]
    next => cases h
  · exact isOther_of_mem_typeFindings h

/-- A name that is filled in is neither missing nor too long. -/
theorem headFindings_fillName {i : Interface} {k : Nat} (h : k < 2 ^ 64) :
    (i.fillName k).headFindings = i.headFindings.filter fun f => decide f.IsOther := by
  by_cases hname : blank i.name = true
  · have hfilled : (i.fillName k).name = countedName k := by
      rw [fillName, if_pos hname]
    have hnamed : blank (i.fillName k).name = false := by
      rw [hfilled, blank_eq_false_iff, trim_countedName]
      exact countedName_ne_nil k
    have hshort : ¬nameMax < (trim (i.fillName k).name).length := by
      rw [hfilled, trim_countedName]
      exact Nat.not_lt.mpr (length_countedName_le h)
    have htype : (i.fillName k).typeFindings = i.typeFindings := by
      rw [typeFindings, type_fillName, typeFindings]
    rw [headFindings_of_not_blank hnamed, if_neg hshort, List.nil_append, htype,
      headFindings_of_blank hname, List.filter_cons_of_neg (by simp [Finding.IsOther]), eq_comm,
      List.filter_eq_self]
    exact fun f hf => decide_eq_true (isOther_of_mem_typeFindings hf)
  · rw [Bool.not_eq_true] at hname
    rw [fillName_of_not_blank hname, eq_comm, List.filter_eq_self]
    exact fun f hf => decide_eq_true (isOther_of_mem_headFindings hname hf)

/-- Filling in a name takes away the finding about it and leaves all others. -/
theorem findings_fillName {i : Interface} {k : Nat} (h : k < 2 ^ 64) :
    (i.fillName k).findings = i.findings.filter fun f => decide f.IsOther := by
  have hfields : (i.fillName k).fieldFindings = i.fieldFindings := by
    simp only [fieldFindings, firstValue?, type_fillName, setting?_fillName]
  have hrequirements : (i.fillName k).requirementFindings = i.requirementFindings := by
    simp only [requirementFindings, hasAnyValue, firstValue?, type_fillName, setting?_fillName]
  have hkeep : ∀ fs : List Finding, (∀ f ∈ fs, f.IsOther) →
      fs.filter (fun f => decide f.IsOther) = fs := by
    intro fs hfs
    exact List.filter_eq_self.mpr fun f hf => decide_eq_true (hfs f hf)
  have haddresses : ∀ f ∈ i.settings.flatMap (·.addressFindings i.type), f.IsOther := by
    intro f hf
    obtain ⟨e, -, he⟩ := List.mem_flatMap.mp hf
    exact Finding.isOther_of_mem_addressFindings he
  rw [findings, findings, headFindings_fillName h, hfields, hrequirements, type_fillName,
    settings_fillName, List.filter_append, List.filter_append, List.filter_append,
    hkeep i.fieldFindings fun _ => Finding.isOther_of_mem_fieldFindings,
    hkeep i.requirementFindings fun _ => Finding.isOther_of_mem_requirementFindings,
    hkeep _ haddresses]

end Interface

namespace Document

theorem warnings_fillNames (d : Document) : d.fillNames.warnings = d.warnings := by
  have hdiscoverable (i : Interface) (k : Nat) :
      (i.fillName k).isDiscoverable = i.isDiscoverable := by
    rw [Interface.isDiscoverable, Interface.setting?_fillName, Interface.isDiscoverable]
  have hmismatched (i : Interface) (k : Nat) : (i.fillName k).isMismatched = i.isMismatched := by
    simp only [Interface.isMismatched, Interface.mode, Interface.setting?_fillName, hdiscoverable]
  have hmode : d.fillNames.modeWarnings = d.modeWarnings := by
    rw [modeWarnings_eq, modeWarnings_eq, interfaces_fillNames, List.mapIdx_mapIdx]
    simp only [Function.comp_def, hmismatched]
  have hany : d.fillNames.interfaces.any (·.isDiscoverable) =
      d.interfaces.any (·.isDiscoverable) := by
    rw [interfaces_fillNames, Bool.eq_iff_iff]
    simp only [List.any_eq_true, List.mem_mapIdx]
    constructor
    · rintro ⟨_, ⟨k, hk, rfl⟩, hi⟩
      exact ⟨_, List.getElem_mem hk, hdiscoverable _ k ▸ hi⟩
    · rintro ⟨i, hmem, hi⟩
      obtain ⟨k, hk, rfl⟩ := List.getElem_of_mem hmem
      exact ⟨_, ⟨k, hk, rfl⟩, (hdiscoverable _ k).trans hi⟩
  rw [warnings, warnings, hmode, hany]
  rfl

theorem errors_fillNames {d : Document} (h : d.interfaces.length < 2 ^ 64) :
    d.fillNames.errors = d.errors.filter fun e => e.message != Fault.nameMissing.message := by
  have hissue (owner : Text) (fs : List Finding) : (fs.map (·.issue owner)).filter
      (fun e => e.message != Fault.nameMissing.message) =
        (fs.filter fun f => decide f.IsOther).map (·.issue owner) := by
    rw [List.filter_map]
    congr 1
    apply List.filter_congr
    intro f _
    rw [Function.comp_apply, Bool.eq_iff_iff, bne_iff_ne, decide_eq_true_iff]
    rfl
  have hroot : (Entries.discoveryFindings (d.entries rootSection)).filter
      (fun f => decide f.IsOther) = Entries.discoveryFindings (d.entries rootSection) :=
    List.filter_eq_self.mpr fun f hf =>
      decide_eq_true (Finding.isOther_of_mem_discoveryFindings hf)
  have hinterfaces : (d.fillNames.interfaces.mapIdx fun position i =>
      i.findings.map (·.issue (interfacePath position))) =
        (d.interfaces.mapIdx fun position i =>
          i.findings.map (·.issue (interfacePath position))).map
            (List.filter fun e => e.message != Fault.nameMissing.message) := by
    rw [interfaces_fillNames, List.mapIdx_mapIdx]
    apply List.ext_getElem
    · simp
    · intro k hk _
      have hposition : k < 2 ^ 64 := Nat.lt_trans (List.length_mapIdx ▸ hk) h
      rw [List.getElem_map, List.getElem_mapIdx, List.getElem_mapIdx, hissue,
        Function.comp_apply, Interface.findings_fillName hposition]
  rw [errors, errors, List.filter_append, hissue, hroot, List.filter_flatten, hinterfaces]
  rfl

/-- Documents with equal contents get the same verdict. -/
theorem validate_eq_of_contentEq {a b : Document} (h : a.contentEq b = true)
    (hb : ∀ name ∈ reservedSections, name ∈ b.order) : a.validate = b.validate := by
  obtain ⟨-, hentries, hinterfaces⟩ := contentEq_iff.mp h
  have hroot : a.entries rootSection = b.entries rootSection :=
    hentries rootSection (mem_significantNames.mpr ⟨hb _ (by decide), .inr (by decide)⟩)
  have herrors : a.errors = b.errors := by
    rw [errors, hroot, hinterfaces, errors]
  have hwarnings : a.warnings = b.warnings := by
    have hmode : a.modeWarnings = b.modeWarnings := by
      rw [modeWarnings, hinterfaces, modeWarnings]
    rw [warnings, discovers_congr hroot, autoconnects_congr hroot, hmode, hinterfaces, warnings]
  rw [validate, herrors, hwarnings, validate]

/-- Writing a text's document and reading it again changes nothing about its verdict but that no
name is missing any more. -/
theorem validate_read_write {t : Text} {firstId : Nat}
    (h : (read t firstId).interfaces.length < 2 ^ 64) (nextId : Nat) :
    let first := (read t firstId).validate
    let second := (read (read t firstId).write nextId).validate
    second.warnings = first.warnings ∧
      second.errors = first.errors.filter
        fun e => e.message != "Interface name is required".toList := by
  have hcontent := ((tidy_read t firstId).legible).contentEq_read_write nextId
  have hlisted : ∀ name ∈ reservedSections, name ∈ (read t firstId).fillNames.order :=
    (tidy_read t firstId).reserved_listed
  rw [validate_eq_of_contentEq hcontent hlisted]
  exact ⟨warnings_fillNames _, errors_fillNames h⟩

theorem validate_read_write_unnamed :
    let d := read "[interfaces]\n[[ ]]\ntype = Radio\nx_host = a b\n[[Roof]]\n".toList 0
    d.interfaces.length < 2 ^ 64 ∧
      (read d.write 2).validate.warnings = d.validate.warnings ∧
      (read d.write 2).validate.errors = d.validate.errors.filter
        fun e => e.message != "Interface name is required".toList :=
  have h : (read "[interfaces]\n[[ ]]\ntype = Radio\nx_host = a b\n[[Roof]]\n".toList
      0).interfaces.length < 2 ^ 64 := by
    decide +kernel
  ⟨h, validate_read_write h 2⟩

end Document

namespace Document

/-- Equal contents are seen alike, and texts that read with names are told apart by their written
form if they have different contents. -/
theorem contentEq_seen :
    (∀ a b : Document, (∀ name ∈ reservedSections, name ∈ a.order) →
      (∀ name ∈ reservedSections, name ∈ b.order) → a.contentEq b = true →
        a.write = b.write ∧ a.validate = b.validate) ∧
    ∀ (t t' : Text) (firstId firstId' : Nat),
      (∀ i ∈ (read t firstId).interfaces, blank i.name = false) →
      (∀ i ∈ (read t' firstId').interfaces, blank i.name = false) →
        ((read t firstId).contentEq (read t' firstId') = true ↔
          (read t firstId).write = (read t' firstId').write) := by
  constructor
  · intro a b ha hb h
    exact ⟨write_eq_of_contentEq h ha hb, validate_eq_of_contentEq h hb⟩
  · intro t t' firstId firstId' ht ht'
    exact (writable_read ht).reloadable.contentEq_iff_write_eq (writable_read ht').reloadable

theorem contentEq_seen_respelled :
    let t := "[interfaces]\n[[Roof]]\ntype = AutoInterface\n# mode\nMode=ap\nmode = full\n".toList
    let t' := "[ Interfaces ]\n[[ Roof ]]\nMode = full\nTYPE =AutoInterface\n".toList
    let d := (read t 0).addSection "idle".toList
    ((read t 0).write = d.write ∧ (read t 0).validate = d.validate) ∧
      ((read t 0).contentEq (read t' 5) = true ↔ (read t 0).write = (read t' 5).write) ∧
      (read t 0).write = (read t' 5).write := by
  intro t t' d
  exact ⟨contentEq_seen.1 _ _ (by decide +kernel) (by decide +kernel) (by decide +kernel),
    contentEq_seen.2 t t' 0 5 (by decide +kernel) (by decide +kernel), by decide +kernel⟩

/-- A blank name and the one that it gives way to are written alike. -/
example :
    (read "[interfaces]\n[[ ]]\n".toList 0).write =
      (read "[interfaces]\n[[Interface 1]]\n".toList 0).write ∧
    (read "[interfaces]\n[[ ]]\n".toList 0).contentEq
      (read "[interfaces]\n[[Interface 1]]\n".toList 0) = false := by
  decide +kernel

end Document

end GatewayConfig
