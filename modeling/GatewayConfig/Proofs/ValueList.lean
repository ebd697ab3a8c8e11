import GatewayConfig.Discovered
import GatewayConfig.Proofs.Text.Trim

/-! # Lists inside lists

The items of a value are those of its pieces, wherever a separator cuts it. Main statement:
writing texts as one list value and reading it gives the items of the texts one after the other,
and so does a nested array of JSON, whose values are read from left to right.
-/

namespace GatewayConfig
open Text

namespace ValueList

theorem clean_append (items more : List Text) :
    clean (items ++ more) = clean items ++ clean more := by
  rw [clean, List.map_append, List.filter_append, clean, clean]

theorem clean_cons (item : Text) (items : List Text) :
    clean (item :: items) = if blank item then clean items else trim item :: clean items := by
  rw [clean, List.map_cons, List.filter_cons, ← blank]
  cases blank item <;> rfl

theorem clean_singleton_congr {s t : Text} (h : trim s = trim t) : clean [s] = clean [t] := by
  rw [clean, clean, List.map_singleton, List.map_singleton, h]

@[simp] theorem read_nil : read [] = [] := rfl

/-- A separator ends the items in front of it. -/
theorem read_append_separator (s t : Text) {c : Char} (hc : isSeparator c = true) :
    read (s ++ c :: t) = read s ++ read t := by
  rw [read, List.splitOnP_append_cons s t hc, clean_append, read, read]

theorem read_cons_separator (t : Text) {c : Char} (hc : isSeparator c = true) :
    read (c :: t) = read t :=
  read_append_separator [] t hc

theorem read_of_no_separator {t : Text} (h : ∀ c ∈ t, isSeparator c = false) :
    read t = clean [t] := by
  rw [read, List.splitOnP_eq_singleton h]

/-- A line break is blank and a separator, so a leading blank may cut the value or not. -/
theorem read_cons_of_blank {c : Char} (hc : isBlank c = true) (t : Text) :
    read (c :: t) = read t := by
  cases hseparator : isSeparator c with
  | true => exact read_cons_separator t hseparator
  | false =>
    obtain ⟨first, rest, hsplit⟩ :=
      List.exists_cons_of_ne_nil (List.splitOnP_ne_nil isSeparator t)
    rw [read, List.splitOnP_cons_eq_if_modifyHead, if_neg (by simp [hseparator]), read, hsplit,
      List.modifyHead_cons, ← List.singleton_append, clean_append,
      clean_singleton_congr (trim_cons_of_blank hc first), ← clean_append, List.singleton_append]

/-- The text `s` is what the last separator so far has in front of `t`. -/
theorem read_append_concat_of_blank {s : Text} (hs : ∀ d ∈ s, isSeparator d = false) (t : Text)
    {c : Char} (hc : isBlank c = true) (hseparator : isSeparator c = false) :
    read (s ++ t ++ [c]) = read (s ++ t) := by
  induction t generalizing s with
  | nil =>
    have htrim : trim (s ++ [c]) = trim s :=
      trim_blank_append_blank (s := []) s (by simp) (by simpa using hc)
    have hconcat : ∀ d ∈ s ++ [c], isSeparator d = false :=
      List.forall_mem_append.mpr ⟨hs, List.forall_mem_singleton.mpr hseparator⟩
    rw [List.append_nil, read_of_no_separator hs, read_of_no_separator hconcat,
      clean_singleton_congr htrim]
  | cons d t ih =>
    cases hd : isSeparator d with
    | true =>
      have hcut : read (t ++ [c]) = read t := ih (s := []) (List.forall_mem_nil _)
      rw [List.append_assoc, List.cons_append, read_append_separator _ _ hd,
        read_append_separator _ _ hd, hcut]
    | false =>
      rw [List.append_cons s d t]
      exact ih (List.forall_mem_append.mpr ⟨hs, List.forall_mem_singleton.mpr hd⟩)

theorem read_concat_of_blank (t : Text) {c : Char} (hc : isBlank c = true) :
    read (t ++ [c]) = read t := by
  cases hseparator : isSeparator c with
  | true => rw [read_append_separator t [] hseparator, read_nil, List.append_nil]
  | false => exact read_append_concat_of_blank (s := []) (List.forall_mem_nil _) t hc hseparator

/-- Blanks around a value are none of its items. -/
theorem read_trim (t : Text) : read (trim t) = read t := by
  have hstart (t : Text) : read (trimStart t) = read t := by
    induction t with
    | nil => rfl
    | cons c t ih =>
      rw [trimStart, List.dropWhile_cons]
      split
      next hc => rw [read_cons_of_blank hc]; exact ih
      next => rfl
  have hend (t : Text) : read (trimEnd t) = read t := by
    induction t using List.reverseRecOn with
    | nil => rfl
    | append_singleton t c ih =>
      by_cases hc : isBlank c = true
      · rw [trimEnd_append_of_blank t (List.forall_mem_singleton.mpr hc), ih,
          read_concat_of_blank t hc]
      · rw [trimEnd_eq_self_iff.mpr (by simpa using hc)]
  rw [trim, hend, hstart]

theorem read_of_blank {t : Text} (h : blank t = true) : read t = [] := by
  rw [← read_trim, blank_iff.mp h, read_nil]

theorem flatMap_read_clean (items : List Text) :
    (clean items).flatMap read = items.flatMap read := by
  induction items with
  | nil => rfl
  | cons item items ih =>
    rw [clean_cons, List.flatMap_cons]
    split
    next hblank => rw [read_of_blank hblank, ih, List.nil_append]
    next => rw [List.flatMap_cons, read_trim, ih]

theorem read_join (pieces : List Text) : read (join ", ".toList pieces) = pieces.flatMap read := by
  induction pieces with
  | nil => rfl
  | cons piece pieces ih =>
    cases pieces with
    | nil => simp [join]
    | cons next rest =>
      have hjoin : join ", ".toList (piece :: next :: rest) =
          piece ++ ',' :: ' ' :: join ", ".toList (next :: rest) := by
        simp [join]
      rw [hjoin, read_append_separator _ _ rfl, read_cons_of_blank rfl, ih,
        List.flatMap_cons (x := piece)]

/-- A list value holds the items of the texts that it was written for. -/
theorem read_write (items : List Text) : read (write items) = items.flatMap read := by
  rw [write, read_join, flatMap_read_clean]

end ValueList

namespace Json

mutual

/-- The values in a nested array that are not arrays, from left to right. -/
def leaves : Json → List Json
  | array items => leavesOf items
  | v => [v]

def leavesOf : List Json → List Json
  | [] => []
  | v :: rest => leaves v ++ leavesOf rest

end

mutual

/-- However deep the arrays are, the text has the items of the leaves. -/
theorem read_configText (v : Json) :
    ValueList.read v.configText = v.leaves.flatMap fun leaf => ValueList.read leaf.configText := by
  cases v with
  | array items => rw [configText, ValueList.read_write, flatMap_read_configTexts, leaves]
  | null | bool | number | string | object => simp [leaves]

theorem flatMap_read_configTexts (items : List Json) :
    (configTexts items).flatMap ValueList.read =
      (leavesOf items).flatMap fun leaf => ValueList.read leaf.configText := by
  cases items with
  | nil => rfl
  | cons v rest =>
    rw [configTexts, leavesOf, List.flatMap_cons, List.flatMap_append, read_configText,
      flatMap_read_configTexts]

end

mutual

theorem not_array_of_mem_leaves {v leaf : Json} (h : leaf ∈ v.leaves) (inner : List Json) :
    leaf ≠ array inner := by
  cases v with
  | array items => exact not_array_of_mem_leavesOf h inner
  | null | bool | number | string | object =>
    obtain rfl := List.mem_singleton.mp h
    exact Json.noConfusion

theorem not_array_of_mem_leavesOf {items : List Json} {leaf : Json} (h : leaf ∈ leavesOf items)
    (inner : List Json) : leaf ≠ array inner := by
  cases items with
  | nil => cases h
  | cons v rest =>
    rcases List.mem_append.mp h with h | h
    · exact not_array_of_mem_leaves h inner
    · exact not_array_of_mem_leavesOf h inner

end

end Json

/-- Reading a value takes apart what was put together: texts that were written as one list have
their own items, and so have the leaves of an array, which are no arrays. -/
theorem ValueList.read_concatenates :
    (∀ items : List Text, read (write items) = items.flatMap read) ∧
    ∀ items : List Json,
      (∀ leaf ∈ (Json.array items).leaves, ∀ inner, leaf ≠ .array inner) ∧
      read (Json.array items).configText =
        (Json.array items).leaves.flatMap fun leaf => read leaf.configText :=
  ⟨read_write, fun items =>
    ⟨fun _ hleaf => Json.not_array_of_mem_leaves hleaf, Json.read_configText (.array items)⟩⟩

example :
    let inner : Json := .array [.null, .array [.string ",c".toList]]
    ValueList.read (Json.array [.string " a;b\r\n".toList, inner]).configText =
      ["a".toList, "b".toList, "c".toList] := by decide

end GatewayConfig
