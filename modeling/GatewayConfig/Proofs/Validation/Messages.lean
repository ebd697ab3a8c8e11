import GatewayConfig.Proofs.InterfaceBlock
import GatewayConfig.Proofs.Text.Lines
import GatewayConfig.Proofs.Validation.Conformance

/-! # Issues on one line

The keys and the type of an interface go into the paths and messages of issues as they are. Numbers
and what comes from the catalogue hold no line break, so an issue holds none either unless one of
the interfaces does.
-/

namespace GatewayConfig
open Text

theorem Text.newline_not_mem_ofNat (n : Nat) : '\n' ∉ ofNat n :=
  fun h => absurd (Interface.isDigit_of_mem_ofNat h) (by decide)

namespace NumberLayout

theorem newline_not_mem_place {digits : Text} (h : '\n' ∉ digits) (keepsFraction : Bool)
    (power : Int) : '\n' ∉ place keepsFraction digits power := by
  have hzeros (n : Nat) : '\n' ∉ List.replicate n '0' :=
    fun hmem => absurd (List.eq_of_mem_replicate hmem) (by decide)
  have hfraction : '\n' ∉ if keepsFraction then ".0".toList else [] := by
    cases keepsFraction <;> decide
  rw [place]
  split
  next => exact List.not_mem_append (List.not_mem_append h (hzeros _)) hfraction
  next =>
    have hpadded := List.not_mem_append (hzeros ((-power).toNat + 1 - digits.length)) h
    exact List.not_mem_append
      (List.not_mem_append (fun hmem => hpadded (List.mem_of_mem_take hmem)) (by decide))
      (fun hmem => hpadded (List.mem_of_mem_drop hmem))

theorem newline_not_mem_scientific {digits : Text} (h : '\n' ∉ digits) (leading : Int) :
    '\n' ∉ scientific digits leading := by
  have hpoint : '\n' ∉ if digits.length ≤ 1 then [] else ".".toList ++ digits.drop 1 := by
    split
    next => exact List.not_mem_nil
    next => exact List.not_mem_append (by decide) (fun hmem => h (List.mem_of_mem_drop hmem))
  have hsign : '\n' ∉ if leading < 0 then "e-".toList else "e+".toList := by
    split <;> decide
  exact List.not_mem_append (List.not_mem_append (List.not_mem_append
    (fun hmem => h (List.mem_of_mem_take hmem)) hpoint) hsign) (newline_not_mem_ofNat _)

theorem newline_not_mem_write (layout : NumberLayout) (d : Decimal) : '\n' ∉ layout.write d := by
  have hdigits : '\n' ∉ Nat.toDigits 10 d.coefficient := newline_not_mem_ofNat d.coefficient
  have hsign : '\n' ∉ if d.negative then "-".toList else [] := by
    cases d.negative <;> decide
  have hmagnitude (isPositional : Bool) (leading : Int) : '\n' ∉ if isPositional then
      place layout.keepsFraction (Nat.toDigits 10 d.coefficient) d.exponent
      else scientific (Nat.toDigits 10 d.coefficient) leading := by
    cases isPositional with
    | true => exact newline_not_mem_place hdigits _ _
    | false => exact newline_not_mem_scientific hdigits _
  exact List.not_mem_append hsign (hmagnitude _ _)

end NumberLayout

def FieldKind.choices : FieldKind → List Choice
  | select choices => choices
  | _ => []

theorem Catalogue.everyField_oneLine : ∀ f ∈ everyField,
    '\n' ∉ f.key ∧ '\n' ∉ f.label ∧ ∀ c ∈ f.kind.choices, '\n' ∉ c.value := by
  decide +kernel

theorem FieldFault.newline_not_mem_message {label : Text} (hlabel : '\n' ∉ label)
    {fault : FieldFault}
    (hoffers : ∀ choices, fault = .notOffered choices → ∀ c ∈ choices, '\n' ∉ c.value) :
    '\n' ∉ fault.message label := by
  have hbound {words : Text} (hwords : '\n' ∉ words) (bound : Binary64) :
      '\n' ∉ label ++ words ++ bound.text .report :=
    List.not_mem_append (List.not_mem_append hlabel hwords)
      (NumberLayout.newline_not_mem_write _ _)
  cases fault with
  | missing => exact List.not_mem_append hlabel (by decide)
  | notANumber => exact List.not_mem_append hlabel (by decide)
  | below bound => exact hbound (by decide) bound
  | above bound => exact hbound (by decide) bound
  | notWhole => exact List.not_mem_append hlabel (by decide)
  | notYesNo => exact List.not_mem_append hlabel (by decide)
  | notOffered choices =>
    refine List.not_mem_append (List.not_mem_append hlabel (by decide)) fun hmem => ?_
    rcases mem_of_mem_join hmem with hmem | ⟨value, hvalue, hmem⟩
    · exact absurd hmem (by decide)
    · obtain ⟨c, hc, rfl⟩ := List.mem_map.mp hvalue
      exact hoffers choices rfl c hc hmem
  | noItems => exact List.not_mem_append hlabel (by decide)

theorem FieldKind.choices_of_notOffered_mem {kind : FieldKind} {required : Bool} {value : Text}
    {choices : List Choice} (h : .notOffered choices ∈ kind.faults required value) :
    kind.choices = choices := by
  cases kind with
  | text => cases h
  | number min max step =>
    simp only [faults] at h
    split at h
    next x _ => simp [Binary64.faults] at h
    next => simp at h
  | boolean =>
    simp only [faults] at h
    split at h <;> simp at h
  | select offered =>
    simp only [faults] at h
    split at h
    next => cases h
    next => simpa [FieldKind.choices] using (List.mem_singleton.mp h).symm
  | list =>
    simp only [faults] at h
    split at h <;> simp at h

/-- Neither what a finding is about nor what it says holds a line break. -/
structure Finding.OneLine (x : Finding) : Prop where
  key : '\n' ∉ x.key
  message : '\n' ∉ x.fault.message

theorem Finding.OneLine.newline_not_mem_text {x : Finding} (h : x.OneLine) {owner : Text}
    (howner : '\n' ∉ owner) : '\n' ∉ (x.issue owner).text := by
  have hlevel : '\n' ∉ Level.error.text ++ " ".toList := by decide
  have hpath : '\n' ∉ owner ++ ".".toList ++ x.key :=
    List.not_mem_append (List.not_mem_append howner (by decide)) h.key
  exact List.not_mem_append
    (List.not_mem_append (List.not_mem_append hlevel hpath) (by decide)) h.message

theorem Field.oneLine_of_mem_findings {f : Field} (hf : f ∈ Catalogue.everyField)
    {value : Option Text} {x : Finding} (hx : x ∈ f.findings value) : x.OneLine := by
  obtain ⟨hkey, hlabel, hoffers⟩ := Catalogue.everyField_oneLine f hf
  obtain ⟨fault, hfault, rfl⟩ := List.mem_map.mp hx
  refine ⟨hkey, FieldFault.newline_not_mem_message hlabel ?_⟩
  rintro choices rfl
  rw [Field.faults] at hfault
  split at hfault
  next value _ => exact FieldKind.choices_of_notOffered_mem hfault ▸ hoffers
  next =>
    split at hfault <;> simp at hfault

theorem Entries.oneLine_of_mem_discoveryFindings {root : List Entry} {x : Finding}
    (hx : x ∈ discoveryFindings root) : x.OneLine := by
  rcases List.mem_append.mp hx with hx | hx
  · obtain ⟨f, hf, hx⟩ := List.mem_flatMap.mp hx
    exact Field.oneLine_of_mem_findings
      (Catalogue.mem_everyField_of_mem_globalDiscoveryFields hf) hx
  · obtain ⟨⟨source, n⟩, -, rfl⟩ := List.mem_map.mp hx
    have hmessage : '\n' ∉ Fault.sourceIdentity.message := by decide
    exact ⟨List.not_mem_append (List.not_mem_append (by decide) (newline_not_mem_ofNat n))
      (by decide), hmessage⟩

theorem Entry.oneLine_of_mem_addressFindings {type : Text} {e : Entry} (hkey : '\n' ∉ e.key)
    {x : Finding} (hx : x ∈ e.addressFindings type) : x.OneLine := by
  obtain ⟨-, ⟨-, rfl⟩ | ⟨-, rfl⟩⟩ := Entry.mem_addressFindings_iff.mp hx
  · exact ⟨hkey, List.not_mem_append hkey (by decide)⟩
  · exact ⟨hkey, List.not_mem_append hkey (by decide)⟩

theorem Requirement.oneLine_of_mem_ofType : ∀ t ∈ InterfaceType.all, ∀ r ∈ ofType t,
    '\n' ∉ r.key ∧ ∀ message ∈ r.message, '\n' ∉ message := by
  decide +kernel

theorem Requirement.oneLine_of_mem_ofTypeName {type : Text} {r : Requirement}
    (h : r ∈ ofTypeName type) : '\n' ∉ r.key ∧ ∀ message ∈ r.message, '\n' ∉ message := by
  obtain ⟨t, -, h⟩ := exists_of_mem_ofTypeName h
  exact oneLine_of_mem_ofType t t.mem_all r h

namespace Interface

theorem oneLine_of_mem_headFindings {i : Interface} {x : Finding} (hx : x ∈ i.headFindings) :
    x.OneLine := by
  rcases List.mem_append.mp hx with hx | hx
  · split at hx
    next =>
      rw [List.mem_singleton.mp hx]
      exact ⟨by decide, by decide⟩
    next =>
      split at hx
      next =>
        rw [List.mem_singleton.mp hx]
        exact ⟨by decide, by decide⟩
      next => cases hx
  · split at hx
    next =>
      rw [List.mem_singleton.mp hx]
      exact ⟨by decide, by decide⟩
    next => cases hx

theorem oneLine_of_mem_fieldFindings {i : Interface} {x : Finding} (hx : x ∈ i.fieldFindings) :
    x.OneLine := by
  obtain ⟨f, hf, hx⟩ := List.mem_flatMap.mp hx
  exact Field.oneLine_of_mem_findings (Catalogue.mem_everyField_of_mem_allFields hf) hx

theorem Unbroken.oneLine_of_mem_requirementFindings {i : Interface} (h : i.Unbroken) {x : Finding}
    (hx : x ∈ i.requirementFindings) : x.OneLine := by
  obtain ⟨r, hr, rfl⟩ := List.mem_map.mp hx
  obtain ⟨hkey, hmessage⟩ := Requirement.oneLine_of_mem_ofTypeName (List.mem_filter.mp hr).1
  have husual : '\n' ∉ r.key ++ " is required for ".toList ++ i.type :=
    List.not_mem_append (List.not_mem_append hkey (by decide)) h.type_no_newline
  have hsaid : '\n' ∉ r.message.getD (r.key ++ " is required for ".toList ++ i.type) := by
    cases hmessage' : r.message with
    | some message => exact hmessage message hmessage'
    | none => exact husual
  exact ⟨hkey, hsaid⟩

/-- What is found about an interface breaks no line unless the interface does. -/
theorem Unbroken.oneLine_of_mem_findings {i : Interface} (h : i.Unbroken) {x : Finding}
    (hx : x ∈ i.findings) : x.OneLine := by
  simp only [findings, List.mem_append, List.mem_flatMap] at hx
  rcases hx with ((hx | hx) | hx) | ⟨e, he, hx⟩
  · exact oneLine_of_mem_headFindings hx
  · exact oneLine_of_mem_fieldFindings hx
  · exact h.oneLine_of_mem_requirementFindings hx
  · exact Entry.oneLine_of_mem_addressFindings (h.settings_no_newline e he).1 hx

end Interface

theorem newline_not_mem_interfacePath (position : Nat) : '\n' ∉ interfacePath position :=
  List.not_mem_append (List.not_mem_append (by decide) (newline_not_mem_ofNat position)) (by decide)

namespace Document

theorem error_oneLine {d : Document} (h : ∀ i ∈ d.interfaces, i.Unbroken) {error : Issue}
    (herror : error ∈ d.errors) : error.level = .error ∧ '\n' ∉ error.text := by
  rcases mem_errors_iff.mp herror with ⟨x, hx, rfl⟩ | ⟨position, i, hi, x, hx, rfl⟩
  · have honeLine := Entries.oneLine_of_mem_discoveryFindings hx
    exact ⟨rfl, honeLine.newline_not_mem_text (by decide)⟩
  · have honeLine := (h i (List.mem_of_getElem? hi)).oneLine_of_mem_findings hx
    exact ⟨rfl, honeLine.newline_not_mem_text (newline_not_mem_interfacePath position)⟩

/-- Nothing of an interface goes into a warning but its position. -/
theorem warning_oneLine {d : Document} {warning : Issue} (hwarning : warning ∈ d.warnings) :
    warning.level = .warning ∧ '\n' ∉ warning.text := by
  rcases List.mem_append.mp hwarning with hwarning | hwarning
  · rcases List.mem_append.mp hwarning with hwarning | hwarning
    · obtain ⟨⟨i, position⟩, -, rfl⟩ := List.mem_map.mp hwarning
      have hlevel : '\n' ∉ Level.warning.text ++ " ".toList := by decide
      have hpath : '\n' ∉ interfacePath position ++ ".discoverable".toList :=
        List.not_mem_append (newline_not_mem_interfacePath position) (by decide)
      have hmessage : '\n' ∉ ": ".toList ++
          "Discoverable is usually paired with gateway/access_point mode".toList := by decide
      refine ⟨rfl, ?_⟩
      rw [Issue.text, List.append_assoc]
      exact List.not_mem_append (List.not_mem_append hlevel hpath) hmessage
    · split at hwarning
      next =>
        rw [List.mem_singleton.mp hwarning]
        exact ⟨rfl, by decide⟩
      next => cases hwarning
  · split at hwarning
    next =>
      rw [List.mem_singleton.mp hwarning]
      exact ⟨rfl, by decide⟩
    next => cases hwarning

end Document

end GatewayConfig
