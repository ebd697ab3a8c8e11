import GatewayConfig.Proofs.Writable

/-! # Laws of entry lists

Keys are compared by their form. Setting a key keeps the spelling that is there, so what holds of
all keys goes on to hold, and a list without two entries for one key stays such a list.
-/

namespace GatewayConfig
open Text

namespace Text

theorem toLower_eq_open_iff {c : Char} : c.toLower = '[' ↔ c = '[' := by
  constructor
  · intro h
    unfold Char.toLower at h
    split at h
    next hc =>
      -- A small letter has a larger code than the bracket.
      have hval := congrArg Char.val h
      grind [UInt32.toNat_add, UInt32.le_iff_toNat_le]
    next => exact h
  · rintro rfl
    decide

@[simp] theorem lowerAscii_lowerAscii (t : Text) : lowerAscii (lowerAscii t) = lowerAscii t := by
  have hchar (c : Char) : c.toLower.toLower = c.toLower := by
    unfold Char.toLower
    split
    · split
      · grind [UInt32.toNat_add, Char.toNat_val]
      · rfl
    · grind
  simp [lowerAscii, hchar]

theorem lowerAscii_eq_nil_iff {t : Text} : lowerAscii t = [] ↔ t = [] := List.map_eq_nil_iff

theorem head?_open_of_lowerAscii_eq {s t : Text} (h : lowerAscii s = lowerAscii t)
    (hs : s.head? = some '[') : t.head? = some '[' := by
  have hhead : (lowerAscii t).head? = some '[' := by
    rw [← h, lowerAscii, List.head?_map, hs]
    rfl
  rw [lowerAscii, List.head?_map, Option.map_eq_some_iff] at hhead
  obtain ⟨c, hc, hlower⟩ := hhead
  rw [hc, toLower_eq_open_iff.mp hlower]

theorem keyForm_of_trimmed {t : Text} (h : trim t = t) : keyForm t = lowerAscii t := by
  rw [keyForm, h]

end Text

theorem Entry.answersTo_iff {key : Text} {e : Entry} :
    e.answersTo key = true ↔ keyForm e.key = keyForm key := by
  rw [answersTo, beq_iff_eq]

theorem Entry.answersTo_self (key value : Text) : answersTo key ⟨key, value⟩ = true :=
  answersTo_iff.mpr rfl

namespace Entries

theorem get?_cons (e : Entry) (rest : List Entry) (key : Text) :
    get? (e :: rest) key = if e.answersTo key then some e.value else get? rest key := by
  rw [get?, List.find?_cons]
  cases e.answersTo key <;> rfl

theorem erase_cons (e : Entry) (rest : List Entry) (key : Text) :
    erase (e :: rest) key = if e.answersTo key then rest else e :: erase rest key := by
  rw [erase, List.eraseP_cons]
  cases e.answersTo key <;> rfl

/-- What stands in a list after a key is set. -/
theorem mem_set {entries : List Entry} {key value : Text} {e : Entry}
    (h : e ∈ set entries key value) :
    e ∈ entries ∨ e = ⟨key, value⟩ ∨
      ∃ old ∈ entries, keyForm old.key = keyForm key ∧ e = ⟨old.key, value⟩ := by
  induction entries with
  | nil =>
    rw [set, List.mem_singleton] at h
    exact .inr (.inl h)
  | cons first rest ih =>
    rw [set] at h
    split at h
    next hfirst =>
      rcases List.mem_cons.mp h with rfl | h
      · exact .inr (.inr ⟨first, by simp, Entry.answersTo_iff.mp hfirst, rfl⟩)
      · exact .inl (List.mem_cons_of_mem _ h)
    next =>
      rcases List.mem_cons.mp h with rfl | h
      · exact .inl List.mem_cons_self
      · rcases ih h with h | h | ⟨old, hold, h⟩
        · exact .inl (List.mem_cons_of_mem _ h)
        · exact .inr (.inl h)
        · exact .inr (.inr ⟨old, List.mem_cons_of_mem _ hold, h⟩)

/-- A key without an entry gets one at the end. -/
theorem set_of_absent {entries : List Entry} {key : Text}
    (h : keyForm key ∉ entries.map (keyForm ·.key)) (value : Text) :
    set entries key value = entries ++ [⟨key, value⟩] := by
  induction entries with
  | nil => rfl
  | cons first rest ih =>
    simp only [List.map_cons, List.mem_cons, not_or] at h
    have hfirst : ¬first.answersTo key = true := fun ha => h.1 (Entry.answersTo_iff.mp ha).symm
    rw [set, if_neg hfirst, ih h.2, List.cons_append]

/-- Setting a key changes no key of the list and adds at most one. -/
theorem map_key_set (entries : List Entry) (key value : Text) :
    (set entries key value).map (·.key) = entries.map (·.key) ∨
      (set entries key value).map (·.key) = entries.map (·.key) ++ [key] ∧
        keyForm key ∉ entries.map (keyForm ·.key) := by
  induction entries with
  | nil => exact .inr ⟨rfl, by simp⟩
  | cons first rest ih =>
    rw [set]
    split
    next => exact .inl rfl
    next hfirst =>
      rw [Entry.answersTo_iff] at hfirst
      rcases ih with h | ⟨h, habsent⟩
      · exact .inl (by simp [h])
      · exact .inr ⟨by simp [h], by simp [habsent, Ne.symm hfirst]⟩

theorem map_keyForm {entries : List Entry} (h : ∀ e ∈ entries, trim e.key = e.key) :
    entries.map (keyForm ·.key) = entries.map (lowerAscii ·.key) :=
  List.map_congr_left fun e he => keyForm_of_trimmed (h e he)

theorem map_lowerAscii_set {entries : List Entry} (h : ∀ e ∈ entries, trim e.key = e.key)
    {key : Text} (hkey : trim key = key) (value : Text) :
    (set entries key value).map (lowerAscii ·.key) = entries.map (lowerAscii ·.key) ∨
      (set entries key value).map (lowerAscii ·.key) =
          entries.map (lowerAscii ·.key) ++ [lowerAscii key] ∧
        lowerAscii key ∉ entries.map (lowerAscii ·.key) := by
  have hmap (l : List Entry) : l.map (lowerAscii ·.key) = (l.map (·.key)).map lowerAscii := by
    simp
  rcases map_key_set entries key value with hkeys | ⟨hkeys, habsent⟩
  · left
    rw [hmap, hkeys, hmap]
  · right
    rw [keyForm_of_trimmed hkey, map_keyForm h] at habsent
    refine ⟨?_, habsent⟩
    rw [hmap, hkeys, hmap, List.map_append, List.map_singleton]

theorem erase_sublist (entries : List Entry) (key : Text) : (erase entries key).Sublist entries :=
  List.eraseP_sublist

/-- Writable entries stay writable when a key is set by a writable entry. -/
theorem writable_set {entries : List Entry} {key value : Text}
    (h : ∀ e ∈ entries, e.Writable) (hnew : Entry.Writable ⟨key, value⟩) :
    ∀ e ∈ set entries key value, e.Writable := by
  intro e he
  rcases mem_set he with he | rfl | ⟨old, hold, hform, rfl⟩
  · exact h e he
  · exact hnew
  · have hkey := h old hold
    refine { hkey with
      value_trimmed := hnew.value_trimmed
      value_no_newline := hnew.value_no_newline
      not_bracketed := ?_ }
    -- The spelling that stays starts with a bracket only if the given key does.
    rintro ⟨hopen, hclose⟩
    rw [keyForm_of_trimmed hkey.key_trimmed, keyForm_of_trimmed hnew.key_trimmed] at hform
    exact hnew.not_bracketed ⟨head?_open_of_lowerAscii_eq hform hopen, hclose⟩

theorem writable_erase {entries : List Entry} (h : ∀ e ∈ entries, e.Writable) (key : Text) :
    ∀ e ∈ erase entries key, e.Writable :=
  fun e he => h e ((erase_sublist entries key).subset he)

theorem get?_eq_none_iff {entries : List Entry} {key : Text} :
    get? entries key = none ↔ keyForm key ∉ entries.map (keyForm ·.key) := by
  rw [get?, Option.map_eq_none_iff, List.find?_eq_none]
  simp [Entry.answersTo_iff]

/-- A key that is dropped is gone, whichever it is, exactly if no two entries answer to one. -/
theorem get?_erase_eq_none_iff {entries : List Entry} :
    (∀ key, get? (erase entries key) key = none) ↔ (entries.map (keyForm ·.key)).Nodup := by
  induction entries with
  | nil => simp [erase, get?]
  | cons e rest ih =>
    have hsame {key : Text} (h : keyForm e.key = keyForm key) : erase (e :: rest) key = rest := by
      rw [erase_cons, if_pos (Entry.answersTo_iff.mpr h)]
    have hother {key : Text} (h : keyForm e.key ≠ keyForm key) :
        get? (erase (e :: rest) key) key = get? (erase rest key) key := by
      have hanswers : ¬e.answersTo key = true := fun ha => h (Entry.answersTo_iff.mp ha)
      rw [erase_cons, if_neg hanswers, get?_cons, if_neg hanswers]
    rw [List.map_cons, List.nodup_cons, ← ih]
    constructor
    · intro h
      have hfirst := h e.key
      rw [hsame rfl, get?_eq_none_iff] at hfirst
      refine ⟨hfirst, fun key => ?_⟩
      by_cases hkey : keyForm e.key = keyForm key
      · rw [get?_eq_none_iff, ← hkey]
        exact fun hmem => hfirst (((erase_sublist rest key).map _).subset hmem)
      · rw [← hother hkey, h]
    · rintro ⟨hfirst, h⟩ key
      by_cases hkey : keyForm e.key = keyForm key
      · rwa [hsame hkey, get?_eq_none_iff, ← hkey]
      · rw [hother hkey, h]

theorem mem_lines {entries : List Entry} {l : Text} :
    l ∈ lines entries ↔ ∃ e ∈ entries, blank e.key = false ∧ e.line = l := by
  simp [lines, and_assoc]

theorem lines_of_writable {entries : List Entry} (h : ∀ e ∈ entries, e.Writable) :
    Entries.lines entries = entries.map Entry.line := by
  have hall : entries.filter (!blank ·.key) = entries := by
    rw [List.filter_eq_self]
    intro e he
    simp [blank_eq_false_iff, (h e he).key_trimmed, (h e he).key_ne_nil]
  rw [lines, hall]

end Entries

end GatewayConfig
