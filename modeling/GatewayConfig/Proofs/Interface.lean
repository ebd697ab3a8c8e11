import GatewayConfig.Proofs.Entries
import Mathlib.Data.List.Nodup

/-! # What an interface's block can carry

An interface is tidy if its block gives it back up to a name that stands in for a blank one. The
reader and the edits of an interface keep it tidy.
-/

namespace GatewayConfig
open Text

def hoistedKeys : List Text :=
  [typeKey, EnableKey.enabled.text, EnableKey.interfaceEnabled.text]

structure Interface.Tidy (i : Interface) : Prop where
  name_trimmed : trim i.name = i.name
  name_no_newline : '\n' ∉ i.name
  type_trimmed : trim i.type = i.type
  type_no_newline : '\n' ∉ i.type
  settings_writable : ∀ e ∈ i.settings, e.Writable
  settings_distinct : (i.settings.map (lowerAscii ·.key)).Nodup
  settings_not_hoisted : ∀ e ∈ i.settings, lowerAscii e.key ∉ hoistedKeys

structure Interface.Unbroken (i : Interface) : Prop where
  name_no_newline : '\n' ∉ i.name
  type_no_newline : '\n' ∉ i.type
  settings_no_newline : ∀ e ∈ i.settings, '\n' ∉ e.key ∧ '\n' ∉ e.value

/-- An interface that its block gives back. -/
structure Interface.Writable (i : Interface) : Prop extends i.Tidy where
  name_ne_nil : i.name ≠ []

instance (i : Interface) : Decidable i.Writable :=
  decidable_of_iff
    ((i.name ≠ [] ∧ trim i.name = i.name ∧ '\n' ∉ i.name) ∧
      (trim i.type = i.type ∧ '\n' ∉ i.type) ∧
      (∀ e ∈ i.settings, e.Writable) ∧ (i.settings.map (lowerAscii ·.key)).Nodup ∧
      ∀ e ∈ i.settings, lowerAscii e.key ∉ hoistedKeys)
    ⟨fun ⟨⟨hne, hname, hname'⟩, ⟨htype, htype'⟩, hsettings, hdistinct, hhoisted⟩ =>
        ⟨⟨hname, hname', htype, htype', hsettings, hdistinct, hhoisted⟩, hne⟩,
      fun h => ⟨⟨h.name_ne_nil, h.name_trimmed, h.name_no_newline⟩,
        ⟨h.type_trimmed, h.type_no_newline⟩, h.settings_writable, h.settings_distinct,
        h.settings_not_hoisted⟩⟩

theorem EnableKey.ofText?_eq (t : Text) :
    ofText? t = if lowerAscii t = EnableKey.enabled.text then some .enabled
      else if lowerAscii t = EnableKey.interfaceEnabled.text then some .interfaceEnabled
      else none := by
  have henabled : lowerAscii EnableKey.enabled.text = EnableKey.enabled.text := by decide
  have hlong : lowerAscii EnableKey.interfaceEnabled.text = EnableKey.interfaceEnabled.text := by
    decide
  simp only [ofText?, List.find?_cons, List.find?_nil, sameAscii, henabled, hlong]
  split_ifs with h h'
  · simp [h]
  · rw [h']
    decide
  · simp [beq_eq_false_iff_ne.mpr (Ne.symm h), beq_eq_false_iff_ne.mpr (Ne.symm h')]

theorem EnableKey.ofText?_lowerAscii_eq_some_iff {key : Text} {k : EnableKey} :
    ofText? (lowerAscii key) = some k ↔ lowerAscii key = k.text := by
  have hne : EnableKey.enabled.text ≠ EnableKey.interfaceEnabled.text := by decide
  rw [ofText?_eq, lowerAscii_lowerAscii]
  split_ifs with h h'
  · cases k <;> simp [h, hne]
  · cases k <;> simp [h', hne.symm]
  · cases k <;> simp [h, h']

theorem EnableKey.ofText?_lowerAscii_eq_none_iff {key : Text} :
    ofText? (lowerAscii key) = none ↔ ∀ k : EnableKey, lowerAscii key ≠ k.text := by
  rw [Option.eq_none_iff_forall_ne_some]
  simp only [ne_eq, ofText?_lowerAscii_eq_some_iff]

theorem not_mem_hoistedKeys_iff {t : Text} :
    t ∉ hoistedKeys ↔ t ≠ typeKey ∧ ∀ k : EnableKey, t ≠ k.text := by
  simp only [hoistedKeys, List.mem_cons, List.not_mem_nil, or_false, not_or, ne_eq]
  refine and_congr_right fun _ => ⟨fun h k => ?_, fun h => ⟨h .enabled, h .interfaceEnabled⟩⟩
  cases k with
  | enabled => exact h.1
  | interfaceEnabled => exact h.2

namespace Interface

/-- What one line does to an interface, by the kind of its key. -/
theorem set_cases (i : Interface) {key : Text} (value : Text) (hkey : trim key = key)
    (hne : key ≠ []) :
    (lowerAscii key = typeKey ∧ i.set key value = { i with type := trim value }) ∨
    (∃ k : EnableKey, lowerAscii key = k.text ∧
      i.set key value = { i with enabled := Flag.read value true, enableKey := k }) ∨
    (lowerAscii key ∉ hoistedKeys ∧
      i.set key value = { i with settings := Entries.set i.settings key value }) := by
  have hform : (lowerAscii key).isEmpty = false := by
    simp [List.isEmpty_eq_false_iff, lowerAscii_eq_nil_iff, hne]
  simp only [set, SettingKey.ofText, keyForm_of_trimmed hkey, hform, Bool.false_eq_true, if_false,
    hkey]
  by_cases htype : lowerAscii key = typeKey
  · exact .inl ⟨htype, by simp [htype]⟩
  · simp only [htype, if_false]
    cases h : EnableKey.ofText? (lowerAscii key) with
    | some k =>
      exact .inr (.inl ⟨k, EnableKey.ofText?_lowerAscii_eq_some_iff.mp h, rfl⟩)
    | none =>
      have habsent := EnableKey.ofText?_lowerAscii_eq_none_iff.mp h
      exact .inr (.inr ⟨not_mem_hoistedKeys_iff.mpr ⟨htype, habsent⟩, rfl⟩)

theorem enter_enable (i : Interface) {key : Text} {k : EnableKey} (hkey : lowerAscii key = k.text)
    (value : Text) :
    i.enter key value = { i with enabled := Flag.read value true, enableKey := k } := by
  have htype : lowerAscii key ≠ typeKey := by
    rw [hkey]
    cases k <;> decide
  rw [enter, if_neg htype, EnableKey.ofText?_lowerAscii_eq_some_iff.mpr hkey]

theorem enter_setting (i : Interface) {key : Text} (hkey : lowerAscii key ∉ hoistedKeys)
    (value : Text) :
    i.enter key value = { i with settings := Entries.set i.settings key value } := by
  obtain ⟨htype, henable⟩ := not_mem_hoistedKeys_iff.mp hkey
  rw [enter, if_neg htype, EnableKey.ofText?_lowerAscii_eq_none_iff.mpr henable]

/-- The reader's way to take a line and the edit that sets a key agree. -/
theorem enter_eq_set (i : Interface) {key value : Text} (hkey : trim key = key) (hne : key ≠ [])
    (hvalue : trim value = value) : i.enter key value = i.set key value := by
  rcases i.set_cases value hkey hne with ⟨htype, hset⟩ | ⟨k, hk, hset⟩ | ⟨hsetting, hset⟩
  · rw [hset, enter, if_pos htype, hvalue]
  · rw [hset, enter_enable i hk]
  · rw [hset, enter_setting i hsetting]

namespace Tidy

theorem new {name type : Text} (hname : trim name = name) (hname' : '\n' ∉ name)
    (htype : trim type = type) (htype' : '\n' ∉ type) : (Interface.new name type).Tidy where
  name_trimmed := hname
  name_no_newline := hname'
  type_trimmed := htype
  type_no_newline := htype'
  settings_writable := by simp [Interface.new]
  settings_distinct := by simp [Interface.new]
  settings_not_hoisted := by simp [Interface.new]

theorem set {i : Interface} (h : i.Tidy) {key value : Text} (hnew : Entry.Writable ⟨key, value⟩) :
    (i.set key value).Tidy := by
  rcases i.set_cases value hnew.key_trimmed hnew.key_ne_nil with
    ⟨-, hset⟩ | ⟨k, -, hset⟩ | ⟨hsetting, hset⟩
  · rw [hset]
    exact { h with
      type_trimmed := trim_trim value
      type_no_newline := fun hmem => hnew.value_no_newline (mem_of_mem_trim hmem) }
  · rw [hset]
    exact { h with }
  · rw [hset]
    have hkeys := Entries.map_lowerAscii_set
      (fun e he => (h.settings_writable e he).key_trimmed) hnew.key_trimmed value
    refine { h with
      settings_writable := Entries.writable_set h.settings_writable hnew
      settings_distinct := ?_
      settings_not_hoisted := ?_ }
    -- The key is there in some spelling and keeps its place, or it is added at the end.
    · rcases hkeys with hkeys | ⟨hkeys, habsent⟩
      · rw [hkeys]
        exact h.settings_distinct
      · rw [hkeys, ← List.concat_eq_append]
        exact h.settings_distinct.concat habsent
    · intro e he
      have hold : ∀ t ∈ i.settings.map (lowerAscii ·.key), t ∉ hoistedKeys := by
        simpa using h.settings_not_hoisted
      have hmem : lowerAscii e.key ∈ (Entries.set i.settings key value).map (lowerAscii ·.key) :=
        List.mem_map_of_mem he
      rcases hkeys with hkeys | ⟨hkeys, -⟩
      · rw [hkeys] at hmem
        exact hold _ hmem
      · rw [hkeys, List.mem_append, List.mem_singleton] at hmem
        rcases hmem with hmem | hmem
        · exact hold _ hmem
        · rw [hmem]
          exact hsetting

theorem erase {i : Interface} (h : i.Tidy) (key : Text) : (i.erase key).Tidy := by
  have hsub := Entries.erase_sublist i.settings key
  exact { h with
    settings_writable := Entries.writable_erase h.settings_writable key
    settings_distinct := (hsub.map _).nodup h.settings_distinct
    settings_not_hoisted := fun e he => h.settings_not_hoisted e (hsub.subset he) }

end Tidy

theorem Tidy.unbroken {i : Interface} (h : i.Tidy) : i.Unbroken where
  name_no_newline := h.name_no_newline
  type_no_newline := h.type_no_newline
  settings_no_newline := fun e he =>
    ⟨(h.settings_writable e he).key_no_newline, (h.settings_writable e he).value_no_newline⟩

theorem Unbroken.set {i : Interface} (h : i.Unbroken) {key value : Text} (hkey : '\n' ∉ key)
    (hvalue : '\n' ∉ value) : (i.set key value).Unbroken := by
  rw [Interface.set]
  cases SettingKey.ofText key with
  | blank => exact h
  | type => exact { h with type_no_newline := fun hmem => hvalue (mem_of_mem_trim hmem) }
  | enable spelling => exact { h with }
  | setting =>
    refine { h with settings_no_newline := fun e he => ?_ }
    rcases Entries.mem_set he with he | rfl | ⟨old, hold, -, rfl⟩
    · exact h.settings_no_newline e he
    · exact ⟨fun hmem => hkey (mem_of_mem_trim hmem), hvalue⟩
    · exact ⟨(h.settings_no_newline old hold).1, hvalue⟩

theorem Unbroken.erase {i : Interface} (h : i.Unbroken) (key : Text) : (i.erase key).Unbroken :=
  { h with
    settings_no_newline := fun e he =>
      h.settings_no_newline e ((Entries.erase_sublist i.settings key).subset he) }

/-- Blanks around the key make no difference. -/
theorem set_trim (i : Interface) (key value : Text) : i.set (trim key) value = i.set key value := by
  rw [set, set, SettingKey.ofText, keyForm_trim, trim_trim]
  rfl

theorem firstValue?_cons (i : Interface) (key : Text) (keys : List Text) :
    i.firstValue? (key :: keys) =
      ((i.setting? key).filter (!blank ·)).or (i.firstValue? keys) := by
  rw [firstValue?]
  cases hkey : i.setting? key with
  | none =>
    rw [List.filterMap_cons_none hkey]
    rfl
  | some value =>
    rw [List.filterMap_cons_some hkey]
    by_cases hvalue : blank value = true
    · rw [List.find?_cons_of_neg (by simp [hvalue]), Option.filter_some_neg (by simp [hvalue])]
      rfl
    · rw [List.find?_cons_of_pos (by simp [hvalue]), Option.filter_some_pos (by simp [hvalue])]
      rfl

theorem name_set (i : Interface) (key value : Text) : (i.set key value).name = i.name := by
  unfold set
  split <;> rfl

theorem Writable.set {i : Interface} (h : i.Writable) {key value : Text}
    (hnew : Entry.Writable ⟨key, value⟩) : (i.set key value).Writable where
  toTidy := h.toTidy.set hnew
  name_ne_nil := by
    rw [name_set]
    exact h.name_ne_nil

end Interface

end GatewayConfig
