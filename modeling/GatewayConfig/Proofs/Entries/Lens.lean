import GatewayConfig.Proofs.Entries
import GatewayConfig.Proofs.ValueList

/-! # Reading what was set

A key stands for the first entry that answers to it, and entries behind that one stay out of sight.
Main statements: to read, to set and to drop a key obey the laws of a lens, whatever entries there
are and however their keys are spelled. A list that is set is read back as well, but for one case:
a list without items takes the first entry away, and the next one for the key comes into sight.
-/

namespace GatewayConfig
open Text

namespace Entries

/-- An entry answers to keys of one form only. -/
theorem not_answersTo_of_ne {e : Entry} {key other : Text} (h : e.answersTo key = true)
    (hother : keyForm other ≠ keyForm key) : ¬e.answersTo other = true := by
  rw [Entry.answersTo_iff] at h ⊢
  exact fun heq => hother (heq.symm.trans h)

theorem get?_set_self (entries : List Entry) (key value : Text) :
    get? (set entries key value) key = some value := by
  induction entries with
  | nil => rw [set, get?_cons, if_pos (Entry.answersTo_self key value)]
  | cons e rest ih =>
    rw [set]
    split
    next he =>
      have he : Entry.answersTo key { e with value } = true := he
      rw [get?_cons, if_pos he]
    next he => rw [get?_cons, if_neg he, ih]

theorem get?_set_of_ne (entries : List Entry) {key other : Text} (value : Text)
    (hother : keyForm other ≠ keyForm key) :
    get? (set entries key value) other = get? entries other := by
  induction entries with
  | nil =>
    have hnew := not_answersTo_of_ne (Entry.answersTo_self key value) hother
    rw [set, get?_cons, if_neg hnew]
  | cons e rest ih =>
    rw [set]
    split
    next he =>
      have hset : ¬Entry.answersTo other { e with value } = true := not_answersTo_of_ne he hother
      rw [get?_cons, if_neg hset, get?_cons, if_neg (not_answersTo_of_ne he hother)]
    next => rw [get?_cons, ih, get?_cons]

theorem get?_erase_of_ne (entries : List Entry) {key other : Text}
    (hother : keyForm other ≠ keyForm key) :
    get? (erase entries key) other = get? entries other := by
  induction entries with
  | nil => rfl
  | cons e rest ih =>
    rw [erase_cons]
    split
    next he => rw [get?_cons, if_neg (not_answersTo_of_ne he hother)]
    next => rw [get?_cons, ih, get?_cons]

theorem set_set (entries : List Entry) (key value later : Text) :
    set (set entries key value) key later = set entries key later := by
  induction entries with
  | nil => rw [set, set, set, if_pos (Entry.answersTo_self key value)]
  | cons e rest ih =>
    rw [set, set]
    split
    next he =>
      have he : Entry.answersTo key { e with value } = true := he
      rw [set, if_pos he]
    next he => rw [set, if_neg he, ih]

theorem set_eq_self {entries : List Entry} {key value : Text} (h : get? entries key = some value) :
    set entries key value = entries := by
  induction entries with
  | nil => cases h
  | cons e rest ih =>
    rw [get?_cons] at h
    rw [set]
    split
    next he =>
      rw [if_pos he, Option.some.injEq] at h
      rw [← h]
    next he =>
      rw [if_neg he] at h
      rw [ih h]

/-- A key that was new goes again without a trace. -/
theorem erase_set_of_absent {entries : List Entry} {key : Text}
    (h : keyForm key ∉ entries.map (keyForm ·.key)) (value : Text) :
    erase (set entries key value) key = entries := by
  have hnone : ∀ e ∈ entries, ¬e.answersTo key = true := by
    intro e he hanswers
    exact h (List.mem_map.mpr ⟨e, he, Entry.answersTo_iff.mp hanswers⟩)
  rw [set_of_absent h, erase, List.eraseP_append_right _ hnone,
    List.eraseP_cons_of_pos (Entry.answersTo_self key value), List.append_nil]

/-- The laws of reading, setting and dropping a key. Keys with the same form are the same key. -/
structure LensLaws (entries : List Entry) (key : Text) : Prop where
  get_set : ∀ value, get? (set entries key value) key = some value
  get_set_other : ∀ value other, keyForm other ≠ keyForm key →
    get? (set entries key value) other = get? entries other
  get_erase_other : ∀ other, keyForm other ≠ keyForm key →
    get? (erase entries key) other = get? entries other
  set_set : ∀ value later, set (set entries key value) key later = set entries key later
  set_get : ∀ value, get? entries key = some value → set entries key value = entries
  erase_set : (∀ e ∈ entries, keyForm e.key ≠ keyForm key) → ∀ value,
    erase (set entries key value) key = entries
  /-- The keys keep their spelling and their places, and a new one gets the place at the end. -/
  keys_set : ∀ value, (set entries key value).map (·.key) = entries.map (·.key) ∨
    (∀ e ∈ entries, keyForm e.key ≠ keyForm key) ∧
      set entries key value = entries ++ [⟨key, value⟩]

theorem lensLaws (entries : List Entry) (key : Text) : LensLaws entries key where
  get_set := get?_set_self entries key
  get_set_other := fun value _ hother => get?_set_of_ne entries value hother
  get_erase_other := fun _ hother => get?_erase_of_ne entries hother
  set_set := set_set entries key
  set_get := fun _ hget => set_eq_self hget
  erase_set := fun habsent value => erase_set_of_absent (by simpa using habsent) value
  keys_set := by
    intro value
    by_cases habsent : keyForm key ∈ entries.map (keyForm ·.key)
    · exact .inl ((map_key_set entries key value).resolve_right fun h => h.2 habsent)
    · exact .inr ⟨by simpa using habsent, set_of_absent habsent value⟩

example : set [⟨" Mode".toList, "ap".toList⟩, ⟨"mode".toList, "gw".toList⟩, ⟨[], []⟩]
      "MODE\t".toList "full".toList =
    [⟨" Mode".toList, "full".toList⟩, ⟨"mode".toList, "gw".toList⟩, ⟨[], []⟩] := by decide

end Entries

theorem ValueList.write_eq_nil_iff {items : List Text} :
    write items = [] ↔ ∀ item ∈ items, blank item = true := by
  induction items with
  | nil => exact iff_of_true rfl (List.forall_mem_nil _)
  | cons item items ih =>
    rw [write, clean_cons, List.forall_mem_cons]
    by_cases hitem : blank item = true
    · rw [if_pos hitem, ← write, ih]
      exact (and_iff_right hitem).symm
    · have hne : trim item ≠ [] := fun hnil => hitem (blank_iff.mpr hnil)
      rw [if_neg hitem]
      exact iff_of_false (join_cons_ne_nil hne _ _) fun h => hitem h.1

namespace Entries

/-- The second entry for a key, which stands behind the one that is in sight. -/
def second? (entries : List Entry) (key : Text) : Option Entry :=
  (entries.filter (·.answersTo key))[1]?

/-- What is in sight after a key is dropped is the second entry for it. -/
theorem get?_erase_self (entries : List Entry) (key : Text) :
    get? (erase entries key) key = (second? entries key).map (·.value) := by
  induction entries with
  | nil => rfl
  | cons e rest ih =>
    rw [erase_cons, second?, List.filter_cons]
    split
    next he =>
      rw [List.getElem?_cons_succ, ← List.head?_eq_getElem?, List.head?_filter, get?]
    next he => rw [get?_cons, if_neg he, ih, second?]

theorem getList_of_get? {entries : List Entry} {key value : Text}
    (h : get? entries key = some value) : getList entries key = ValueList.read value := by
  rw [getList, h]

theorem getList_setList_of_items {entries : List Entry} {key : Text} {items : List Text}
    (h : ¬∀ item ∈ items, blank item = true) :
    getList (setList entries key items) key = items.flatMap ValueList.read := by
  rw [← ValueList.write_eq_nil_iff, ← List.isEmpty_iff] at h
  rw [setList, if_neg h, getList_of_get? (get?_set_self entries key _), ValueList.read_write]

theorem getList_setList_of_blank {entries : List Entry} {key : Text} {items : List Text}
    (h : ∀ item ∈ items, blank item = true) :
    getList (setList entries key items) key =
      (second? entries key).elim [] fun e => ValueList.read e.value := by
  have hempty : (ValueList.write items).isEmpty = true :=
    List.isEmpty_iff.mpr (ValueList.write_eq_nil_iff.mpr h)
  rw [setList, if_pos hempty, getList, get?_erase_self]
  cases second? entries key <;> rfl

/-- A list that is set is read back exactly if it has items or no list hides behind the first entry
for the key. Without items, the list that hides is what is read from then on. -/
theorem getList_setList_iff (entries : List Entry) (key : Text) (items : List Text) :
    (getList (setList entries key items) key = items.flatMap ValueList.read ↔
      ((∀ item ∈ items, blank item = true) →
        ∀ e, second? entries key = some e → ValueList.read e.value = [])) ∧
    ((∀ item ∈ items, blank item = true) →
      getList (setList entries key items) key =
        (second? entries key).elim [] fun e => ValueList.read e.value) := by
  refine ⟨?_, getList_setList_of_blank⟩
  by_cases hblank : ∀ item ∈ items, blank item = true
  · have hnone : items.flatMap ValueList.read = [] :=
      List.flatMap_eq_nil_iff.mpr fun item hitem => ValueList.read_of_blank (hblank item hitem)
    rw [getList_setList_of_blank hblank, hnone, imp_iff_right hblank]
    cases second? entries key <;> simp
  · exact iff_of_true (getList_setList_of_items hblank) fun h => absurd h hblank

/-- The entry behind the first one comes into sight when the list is taken away. -/
theorem getList_setList_hidden :
    let entries := (Document.read "[peers]\nlist = a.i2p\nList = b.i2p, c.i2p\n".toList 0).entries
      "peers".toList
    let emptied := setList entries "list".toList []
    emptied = [⟨"List".toList, "b.i2p, c.i2p".toList⟩] ∧
      getList emptied "list".toList = ["b.i2p".toList, "c.i2p".toList] ∧
      getList emptied "list".toList ≠ ([] : List Text).flatMap ValueList.read := by
  decide +kernel

end Entries

end GatewayConfig
