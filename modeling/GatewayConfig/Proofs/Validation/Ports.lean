import GatewayConfig.Proofs.Interface
import GatewayConfig.Proofs.Numeric.Decimal
import GatewayConfig.Proofs.Validation.Conformance
import GatewayConfig.Proofs.Validation.Hosts

/-! # Two checks of network ports

A network port is checked twice: as a field of the interface's type, against the bounds and the
step of the field, and as a setting whose key says that it holds a port. The keys of the catalogue's
ports are all such keys, and both checks look for a whole number within the range of ports, so they
agree about every value. A run of digits may be longer than a double is precise or beyond all
doubles. This makes no difference: the numbers around the range of ports are doubles, and rounding
moves nothing past a double.
-/

namespace GatewayConfig
open Text

/-- Whether the values are whole numbers between the least and the greatest port. -/
def Field.isNetworkPort (f : Field) : Bool :=
  match f.kind with
  | .number (some low) (some high) (some step) =>
    low.value == 1 && high.value == 65535 && step.value == 1
  | _ => false

namespace Field

theorem isNetworkPort_iff {f : Field} : f.isNetworkPort = true ↔ ∃ low high step,
    f.kind = .number (some low) (some high) (some step) ∧ low.value = 1 ∧ high.value = 65535 ∧
      step.value = 1 := by
  constructor
  · intro h
    rw [isNetworkPort] at h
    split at h
    next low high step hkind =>
      simp only [Bool.and_eq_true, beq_iff_eq, and_assoc] at h
      exact ⟨low, high, step, hkind, h⟩
    next => cases h
  · rintro ⟨low, high, step, hkind, hlow, hhigh, hstep⟩
    simp [isNetworkPort, hkind, hlow, hhigh, hstep]

theorem accepts_iff_port {f : Field} (h : f.isNetworkPort = true) {value : Text} :
    f.kind.Accepts value ↔ Address.Port value := by
  obtain ⟨low, high, step, hkind, hlow, hhigh, hstep⟩ := isNetworkPort_iff.mp h
  simp [hkind, FieldKind.Accepts, Address.Port, hlow, hhigh, hstep]

end Field

namespace Catalogue

/-- A port that a type declares has a key that says so, spelled as keys are compared. -/
theorem isPortKey_of_mem_typeFields : ∀ t ∈ InterfaceType.all, ∀ f ∈ typeFields t,
    f.isNetworkPort = true →
      (keyForm f.key = f.key ∧ f.key ≠ []) ∧ Address.isPortKey t.name f.key = true := by
  decide +kernel

example : ((allFields InterfaceType.backbone.name).filter (·.isNetworkPort)).map (·.key) =
    ["port".toList, "target_port".toList] := by decide +kernel

theorem isNetworkPort_of_shared :
    ∀ f ∈ commonFields ++ discoveryFields, f.isNetworkPort = false := by
  decide +kernel

/-- Whatever the type, the second check looks at the keys of its ports. -/
theorem isPortKey_of_mem_allFields {type : Text} {f : Field} (hf : f ∈ allFields type)
    (h : f.isNetworkPort = true) :
    (keyForm f.key = f.key ∧ f.key ≠ []) ∧ Address.isPortKey type f.key = true := by
  rcases mem_foldl_override hf with hf | hf
  · cases hf
  · rcases List.mem_append.mp hf with hf | hf
    · rw [isNetworkPort_of_shared f hf] at h
      cases h
    · obtain ⟨t, rfl, hown⟩ := exists_of_mem_ownFields hf
      exact isPortKey_of_mem_typeFields t t.mem_all f hown h

end Catalogue

namespace Interface

def fieldErrors (i : Interface) (position : Nat) (f : Field) : List Issue :=
  (f.findings (i.firstValue? f.candidateKeys)).map (·.issue (interfacePath position))

def settingErrors (i : Interface) (position : Nat) (e : Entry) : List Issue :=
  (e.addressFindings i.type).map (·.issue (interfacePath position))

theorem map_issue_findings (i : Interface) (position : Nat) :
    i.findings.map (·.issue (interfacePath position)) =
      i.headFindings.map (·.issue (interfacePath position)) ++
        (Catalogue.allFields i.type).flatMap (i.fieldErrors position) ++
        i.requirementFindings.map (·.issue (interfacePath position)) ++
        i.settings.flatMap (i.settingErrors position) := by
  simp only [findings, fieldFindings, List.map_append, List.map_flatMap]
  rfl

/-- The value of a setting that is not blank is the value of the field with its key. -/
theorem firstValue?_candidateKeys {i : Interface} {f : Field} {e : Entry}
    (he : i.settings.find? (·.answersTo f.key) = some e) (hvalue : blank e.value = false) :
    i.firstValue? f.candidateKeys = some e.value := by
  have hsetting : i.setting? f.key = some e.value := by
    rw [setting?, Entries.get?, he, Option.map_some]
  rw [Field.candidateKeys, firstValue?_cons, hsetting, Option.filter_some_pos (by simp [hvalue]),
    Option.some_or]

/-- The first check finds an error exactly where the value is no port. -/
theorem fieldErrors_eq_nil_iff {i : Interface} {f : Field} {e : Entry}
    (hf : f ∈ Catalogue.allFields i.type) (hport : f.isNetworkPort = true)
    (he : i.settings.find? (·.answersTo f.key) = some e) (hvalue : blank e.value = false)
    (position : Nat) : i.fieldErrors position f = [] ↔ Address.Port e.value := by
  rw [fieldErrors, List.map_eq_nil_iff, firstValue?_candidateKeys he hvalue,
    Field.findings_eq_nil_iff (Catalogue.mem_everyField_of_mem_allFields hf),
    ← Field.accepts_iff_port hport]
  simp [blank_eq_false_iff.mp hvalue]

end Interface

def Entry.portError (position : Nat) (e : Entry) : Issue :=
  ⟨.error, interfacePath position ++ ".".toList ++ e.key,
    e.key ++ " must be an integer between 1 and 65535".toList⟩

/-- The second check reports that a setting holds no port just when it looks for one and the value
is none. -/
theorem Interface.portError_mem_settingErrors_iff {i : Interface} {position : Nat} {e : Entry} :
    e.portError position ∈ i.settingErrors position e ↔
      (keyForm e.key ≠ [] ∧ blank e.value = false) ∧
        Address.isPortKey i.type (keyForm e.key) = true ∧ ¬Address.Port e.value := by
  rw [← Address.isPort_iff, Bool.not_eq_true, settingErrors]
  constructor
  · intro h
    obtain ⟨x, hx, hissue⟩ := List.mem_map.mp h
    obtain ⟨hstated, ⟨-, rfl⟩ | ⟨hport, -⟩⟩ := Entry.mem_addressFindings_iff.mp hx
    · have hmessage := List.append_cancel_left (congrArg Issue.message hissue)
      exact absurd hmessage (by decide)
    · exact ⟨hstated, hport⟩
  · rintro ⟨hstated, hport⟩
    exact List.mem_map.mpr
      ⟨_, Entry.mem_addressFindings_iff.mpr ⟨hstated, .inr ⟨hport, rfl⟩⟩, rfl⟩

namespace Document

theorem issue_mem_errors {d : Document} {position : Nat} {i : Interface}
    (hi : i ∈ d.interfaces[position]?) {error : Issue}
    (h : error ∈ i.findings.map (·.issue (interfacePath position))) :
    error ∈ d.validate.errors :=
  mem_errors_iff.mpr (.inr ⟨position, i, hi, List.mem_map.mp h⟩)

theorem fieldError_mem_errors {d : Document} {position : Nat} {i : Interface}
    (hi : i ∈ d.interfaces[position]?) {f : Field} (hf : f ∈ Catalogue.allFields i.type)
    {error : Issue} (h : error ∈ i.fieldErrors position f) : error ∈ d.validate.errors := by
  refine issue_mem_errors hi ?_
  simp only [Interface.map_issue_findings, List.mem_append, List.mem_flatMap]
  exact .inl (.inl (.inr ⟨f, hf, h⟩))

theorem settingError_mem_errors {d : Document} {position : Nat} {i : Interface}
    (hi : i ∈ d.interfaces[position]?) {e : Entry} (he : e ∈ i.settings) {error : Issue}
    (h : error ∈ i.settingErrors position e) : error ∈ d.validate.errors := by
  refine issue_mem_errors hi ?_
  simp only [Interface.map_issue_findings, List.mem_append, List.mem_flatMap]
  exact .inr ⟨e, he, h⟩

/-- The check of an interface's fields reports an error about a network port, whatever error, just
when the check of its settings reports that the first setting with the port's key holds none. -/
theorem fieldError_iff_portError {d : Document} {position : Nat} {i : Interface}
    (hi : i ∈ d.interfaces[position]?) {f : Field} (hf : f ∈ Catalogue.allFields i.type)
    (hport : f.isNetworkPort = true) {e : Entry}
    (he : i.settings.find? (·.answersTo f.key) = some e) (hvalue : blank e.value = false) :
    (∃ error ∈ i.fieldErrors position f, error ∈ d.validate.errors) ↔
      e.portError position ∈ i.settingErrors position e ∧
        e.portError position ∈ d.validate.errors := by
  obtain ⟨⟨hform, hne⟩, hkey⟩ := Catalogue.isPortKey_of_mem_allFields hf hport
  have hanswers : keyForm e.key = f.key :=
    (Entry.answersTo_iff.mp (List.find?_some he)).trans hform
  -- Either check comes down to whether the value is a port.
  have hfield : (∃ error, error ∈ i.fieldErrors position f) ↔ ¬Address.Port e.value := by
    rw [← Interface.fieldErrors_eq_nil_iff hf hport he hvalue position,
      List.eq_nil_iff_forall_not_mem, not_forall_not]
  have hsetting : e.portError position ∈ i.settingErrors position e ↔ ¬Address.Port e.value := by
    rw [Interface.portError_mem_settingErrors_iff, hanswers]
    simp [hne, hvalue, hkey]
  have hfieldErrors (error : Issue) : error ∈ i.fieldErrors position f ∧
      error ∈ d.validate.errors ↔ error ∈ i.fieldErrors position f :=
    and_iff_left_of_imp (fieldError_mem_errors hi hf)
  rw [and_iff_left_of_imp (settingError_mem_errors hi (List.mem_of_find?_eq_some he)), hsetting,
    ← hfield]
  exact exists_congr hfieldErrors

theorem fieldError_iff_portError_fraction :
    let i : Interface :=
      { name := "Roof".toList, type := "BackboneInterface".toList,
        settings := [⟨"PORT".toList, "65536.5".toList⟩] }
    let f := (Catalogue.typeFields .backbone)[1]
    let e : Entry := ⟨"PORT".toList, "65536.5".toList⟩
    let d := read "[interfaces]\n[[Roof]]\ntype = BackboneInterface\nPORT = 65536.5\n".toList 0
    ((∃ error ∈ i.fieldErrors 0 f, error ∈ d.validate.errors) ↔
      e.portError 0 ∈ i.settingErrors 0 e ∧ e.portError 0 ∈ d.validate.errors) ∧
      e.portError 0 ∈ d.validate.errors := by
  refine ⟨fieldError_iff_portError ?_ ?_ ?_ ?_ ?_, ?_⟩ <;> decide +kernel

end Document

namespace Address

open Text

/-- A run of digits between blanks is a port exactly when the number that it denotes is one. -/
theorem isPort_digits_iff {before digits after : Text} (hbefore : ∀ c ∈ before, isBlank c = true)
    (hdigits : IsDigitGroup digits) (hafter : ∀ c ∈ after, isBlank c = true) :
    isPort (before ++ digits ++ after) = true ↔
      1 ≤ Nat.ofDigitChars 10 digits 0 ∧ Nat.ofDigitChars 10 digits 0 ≤ 65535 := by
  have hnumber : numberOf? (before ++ digits ++ after) =
      Decimal.toBinary64? ⟨false, Nat.ofDigitChars 10 digits 0, 0⟩ := by
    rw [numberOf?, trim_blank_append_blank digits hbefore hafter,
      trim_of_not_blank fun c hc => isBlank_of_isDigit (hdigits.2 c hc),
      Decimal.read?_digits hdigits.1 hdigits.2, Option.bind_some]
  rw [isPort_iff, Port, hnumber]
  generalize Nat.ofDigitChars 10 digits 0 = n
  -- Rounding keeps a number up to 65535 as it is and brings no larger one below 65536.
  constructor
  · rintro ⟨x, hx, hlow, hhigh, -⟩
    constructor
    · by_contra hzero
      obtain ⟨y, hy, hvalue⟩ := Decimal.exists_toBinary64?_of_lt (n := n) (by omega)
      rw [hx, Option.some.injEq] at hy
      rw [hy, hvalue, show n = 0 by omega] at hlow
      norm_num at hlow
    · by_contra hbeyond
      have hle := Decimal.le_value_of_toBinary64? hx (k := 65536) (by decide) (by omega)
      have := hle.trans hhigh
      norm_num at this
  · rintro ⟨hlow, hhigh⟩
    obtain ⟨x, hx, hvalue⟩ := Decimal.exists_toBinary64?_of_lt (n := n) (by omega)
    refine ⟨x, hx, ?_, ?_, n, hvalue⟩
    · rw [hvalue]
      exact_mod_cast hlow
    · rw [hvalue]
      exact_mod_cast hhigh

theorem isPort_digits_iff_long :
    let blanks := "\u00A0\t".toList
    (isPort (blanks ++ "0065535".toList ++ blanks) = true ↔
        1 ≤ Nat.ofDigitChars 10 "0065535".toList 0 ∧
          Nat.ofDigitChars 10 "0065535".toList 0 ≤ 65535) ∧
      (isPort ([] ++ List.replicate 400 '9' ++ []) = true ↔
        1 ≤ Nat.ofDigitChars 10 (List.replicate 400 '9') 0 ∧
          Nat.ofDigitChars 10 (List.replicate 400 '9') 0 ≤ 65535) ∧
      Nat.ofDigitChars 10 "0065535".toList 0 = 65535 ∧
        Nat.ofDigitChars 10 (List.replicate 400 '9') 0 = 10 ^ 400 - 1 := by
  intro blanks
  have hblanks : ∀ c ∈ blanks, isBlank c = true := List.all_eq_true.mp (by decide)
  exact ⟨isPort_digits_iff hblanks (by decide) hblanks,
    isPort_digits_iff (by simp) (by decide +kernel) (by simp), by decide, by decide +kernel⟩

end Address

end GatewayConfig
