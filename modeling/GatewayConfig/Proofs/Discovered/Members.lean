import GatewayConfig.Proofs.Coherence

/-! # The keys of a discovered object

An object tells its keys apart by every character, while an interface goes by their form. The
members that say what stands beside the settings are looked up by their exact keys, and left out
of the settings by the form. Main statements: which objects give an interface with one setting for
each key, and for which spellings a type or an enable flag arrives.
-/

namespace GatewayConfig
open Text

theorem EnableKey.keyForm_text (k : EnableKey) : keyForm k.text = k.text := by
  cases k <;> decide

theorem EnableKey.text_injective {k l : EnableKey} (h : k.text = l.text) : k = l := by
  revert h
  cases k <;> cases l <;> decide

namespace Discovered

def settingForms (members : List (Text × Json)) : List Text :=
  (members.filter (isSettingKey ·.1)).map (keyForm ·.1)

theorem settings_ofMembers (members : List (Text × Json)) (fallback : Text) :
    (ofMembers members fallback).settings.map (keyForm ·.key) = settingForms members := by
  simp [ofMembers, settingForms]

theorem isSetting_of_mem_settings {members : List (Text × Json)} {fallback : Text} {e : Entry}
    (he : e ∈ (ofMembers members fallback).settings) : SettingKey.ofText e.key = .setting := by
  obtain ⟨m, hm, rfl⟩ := List.mem_map.mp he
  have hkey := (List.mem_filter.mp hm).2
  simp only [isSettingKey, Bool.and_eq_true, beq_iff_eq] at hkey
  exact hkey.1

theorem keyed_ofMembers_iff {members : List (Text × Json)} {fallback : Text} :
    (ofMembers members fallback).Keyed ↔ (settingForms members).Nodup := by
  rw [← settings_ofMembers members fallback]
  refine ⟨fun h => h.forms_nodup, fun h => ⟨h, fun e he => ?_, fun e he => ?_⟩⟩
  · exact (SettingKey.ofText_eq_setting_iff.mp (isSetting_of_mem_settings he)).1
  · exact (SettingKey.ofText_eq_setting_iff.mp (isSetting_of_mem_settings he)).2

/-- The settings of an object's interface are told apart by their keys, so that a setting is gone
once it is dropped, exactly if the object has no two keys of one form among them. -/
theorem interface?_object_keyed_iff (members : List (Text × Json)) (fallback : Text) :
    ∃ i, interface? (.object members) fallback = some i ∧
      (i.Keyed ↔ (settingForms members).Nodup) ∧
      ((∀ key, (i.erase key).setting? key = none) ↔ (settingForms members).Nodup) := by
  refine ⟨ofMembers members fallback, rfl, keyed_ofMembers_iff, ?_⟩
  rw [← settings_ofMembers members fallback]
  exact Entries.get?_erase_eq_none_iff

/-- Two keys that differ in case alone both become settings, and one is left when it is dropped. -/
theorem interface?_object_not_keyed :
    let members := [("Mode".toList, Json.string "ap".toList),
      ("mode".toList, Json.string "full".toList)]
    ∃ i, interface? (.object members) "Peer".toList = some i ∧
      ¬(i.settings.map (keyForm ·.key)).Nodup ∧
      (i.erase "mode".toList).setting? "mode".toList = some "full".toList :=
  ⟨_, rfl, by decide, by decide⟩

def readsAsType (key : Text) : Bool := keyForm key == typeKey

def readsAsEnable (key : Text) : Bool :=
  keyForm key == EnableKey.enabled.text || keyForm key == EnableKey.interfaceEnabled.text

theorem readsAsEnable_text (k : EnableKey) : readsAsEnable k.text = true := by
  cases k <;> decide

theorem member?_filter (members : List (Text × Json)) {p : Text → Bool} {key : Text}
    (hkey : p key = true) :
    Json.member? (members.filter (p ·.1)) key = Json.member? members key := by
  have hboth : (fun m : Text × Json => decide (p m.1 = true ∧ (m.1 == key) = true)) =
      fun m => m.1 == key := by
    funext m
    by_cases hm : m.1 = key
    · simp [hm, hkey]
    · simp [hm]
  rw [Json.member?, Json.member?, List.find?_filter, hboth]

theorem member?_singleton (key : Text) (value : Json) (other : Text) :
    Json.member? [(key, value)] other = if key = other then some value else none := by
  by_cases h : key = other <;> simp [Json.member?, h]

/-- What is found under an exact key, if one member alone has a key with some property. -/
theorem member?_of_only {members : List (Text × Json)} {p : Text → Bool} {key : Text}
    {value : Json} (h : members.filter (p ·.1) = [(key, value)]) {other : Text}
    (hother : p other = true) :
    Json.member? members other = if key = other then some value else none := by
  rw [← member?_filter members hother, h, member?_singleton]

theorem valueOf_of_only {members : List (Text × Json)} {p : Text → Bool} {key : Text}
    {value : Json} (h : members.filter (p ·.1) = [(key, value)]) {other : Text}
    (hother : p other = true) :
    valueOf members other = if key = other then value.configText else [] := by
  rw [valueOf, member?_of_only h hother]
  by_cases hkey : key = other
  · rw [if_pos hkey, if_pos hkey]
  · rw [if_neg hkey, if_neg hkey]

theorem type_ofMembers {members : List (Text × Json)} {key : Text} {value : Json}
    (h : members.filter (readsAsType ·.1) = [(key, value)]) (fallback : Text) :
    (ofMembers members fallback).type = if key = typeKey then trim value.configText else [] := by
  change trim (valueOf members typeKey) = _
  rw [valueOf_of_only h (by decide), apply_ite trim, trim_nil]

theorem enable_ofMembers {members : List (Text × Json)} {key : Text} {value : Json}
    (h : members.filter (readsAsEnable ·.1) = [(key, value)]) {spelling : EnableKey}
    (hkey : keyForm key = spelling.text) (fallback : Text) :
    let i := ofMembers members fallback
    (i.enabled, i.enableKey) =
      if key = spelling.text then (Flag.read value.configText true, spelling)
      else (true, .enabled) := by
  have hvalue (k : EnableKey) :
      valueOf members k.text = if key = k.text then value.configText else [] :=
    valueOf_of_only h (readsAsEnable_text k)
  have hfind := member?_of_only h (readsAsEnable_text .interfaceEnabled)
  -- Only the spelling that the key reads as can be the exact one.
  have hother {k : EnableKey} (hk : k ≠ spelling) : key ≠ k.text := by
    rintro rfl
    rw [EnableKey.keyForm_text] at hkey
    exact hk (EnableKey.text_injective hkey)
  have hdefault : Flag.read [] true = true := by decide
  intro i
  change (Flag.read (enabledText members) true,
    if (Json.member? members EnableKey.interfaceEnabled.text).isSome then EnableKey.interfaceEnabled
      else EnableKey.enabled) = _
  cases spelling with
  | enabled =>
    have hlong : key ≠ EnableKey.interfaceEnabled.text := hother (by decide)
    simp only [enabledText, hvalue, hfind, if_neg hlong, List.isEmpty_nil, if_true,
      Option.isSome_none, Bool.false_eq_true, if_false]
    split
    next => rfl
    next => rw [hdefault]
  | interfaceEnabled =>
    have hshort : key ≠ EnableKey.enabled.text := hother (by decide)
    simp only [enabledText, hvalue, hfind, if_neg hshort]
    split
    next =>
      cases htext : value.configText with
      | nil => rfl
      | cons => rfl
    next => simp [hdefault]

/-- A type or an enable flag that one key alone reads as arrives if the key is spelled exactly.
Under any other spelling it is lost, since no such key becomes a setting. -/
theorem interface?_object_hoists (members : List (Text × Json)) (fallback : Text) :
    ∃ i, interface? (.object members) fallback = some i ∧
      (∀ key value, members.filter (readsAsType ·.1) = [(key, value)] →
        i.type = if key = typeKey then trim value.configText else []) ∧
      (∀ key value, members.filter (readsAsEnable ·.1) = [(key, value)] →
        ∀ spelling : EnableKey, keyForm key = spelling.text →
          (i.enabled, i.enableKey) =
            if key = spelling.text then (Flag.read value.configText true, spelling)
            else (true, .enabled)) ∧
      ∀ e ∈ i.settings, readsAsType e.key = false ∧ readsAsEnable e.key = false := by
  refine ⟨ofMembers members fallback, rfl, fun key value h => type_ofMembers h fallback,
    fun key value h spelling hkey => enable_ofMembers h hkey fallback, fun e he => ?_⟩
  have hsetting := isSetting_of_mem_settings he
  obtain ⟨htype, henable⟩ :=
    not_mem_hoistedKeys_iff.mp (SettingKey.ofText_eq_setting_iff.mp hsetting).2
  simp [readsAsType, readsAsEnable, htype, henable]

theorem interface?_object_hoists_exact :
    let members := [("enabled".toList, Json.bool false),
      ("type".toList, Json.string " AutoInterface".toList), ("types".toList, Json.null)]
    ∃ i, interface? (.object members) "Peer".toList = some i ∧
      (members.filter (readsAsType ·.1) = [("type".toList, Json.string " AutoInterface".toList)] ∧
        i.type = "AutoInterface".toList) ∧
      members.filter (readsAsEnable ·.1) = [("enabled".toList, Json.bool false)] ∧
        (i.enabled, i.enableKey) = (false, .enabled) := by
  intro members
  have htype : members.filter (readsAsType ·.1) =
      [("type".toList, Json.string " AutoInterface".toList)] := rfl
  have henable : members.filter (readsAsEnable ·.1) = [("enabled".toList, Json.bool false)] := rfl
  obtain ⟨i, hi, htypes, henables, -⟩ := interface?_object_hoists members "Peer".toList
  exact ⟨i, hi, ⟨htype, htypes _ _ htype⟩, henable,
    henables _ _ henable .enabled (by decide)⟩

/-- A capital letter in the keys, and the type is gone and the disabled interface enabled. -/
theorem interface?_object_drops_hoisted :
    let members := [("Enabled".toList, Json.bool false),
      ("Type".toList, Json.string "AutoInterface".toList)]
    members.filter (readsAsType ·.1) = [("Type".toList, Json.string "AutoInterface".toList)] ∧
      members.filter (readsAsEnable ·.1) = [("Enabled".toList, Json.bool false)] ∧
      interface? (.object members) "Peer".toList = some (Interface.new "Peer".toList []) :=
  ⟨rfl, rfl, by decide⟩

end Discovered

end GatewayConfig
