import GatewayConfig.Text.Basic
import Mathlib.Data.List.DropRight
import Mathlib.Data.List.TakeWhile

/-! # Laws of trimming

A trimmed text has no blank at either end, and blanks put around a text do not change what
trimming leaves. Both ends are treated by recursion on the characters.
-/

namespace GatewayConfig.Text

@[simp] theorem trimStart_nil : trimStart [] = [] := rfl

@[simp] theorem trim_nil : trim [] = [] := rfl

theorem trimEnd_cons (c : Char) (t : Text) :
    trimEnd (c :: t) = if trimEnd t = [] ∧ isBlank c = true then [] else c :: trimEnd t := by
  simp only [trimEnd, List.reverse_cons, List.dropWhile_append, List.reverse_eq_nil_iff,
    List.isEmpty_iff]
  by_cases ht : t.reverse.dropWhile isBlank = []
  · by_cases hc : isBlank c = true
    · simp [ht, hc]
    · simp [ht, hc]
  · simp [ht]

theorem trimEnd_cons_of_not_blank {c : Char} (hc : isBlank c = false) (t : Text) :
    trimEnd (c :: t) = c :: trimEnd t := by
  simp [trimEnd_cons, hc]

theorem trimEnd_append_of_ne_nil (s : Text) {t : Text} (ht : trimEnd t ≠ []) :
    trimEnd (s ++ t) = s ++ trimEnd t := by
  induction s with
  | nil => rfl
  | cons c s ih => simp [trimEnd_cons, ih, ht]

theorem trimEnd_append_of_blank (s : Text) {t : Text} (ht : ∀ c ∈ t, isBlank c = true) :
    trimEnd (s ++ t) = trimEnd s := by
  have hnil : trimEnd t = [] := List.rdropWhile_eq_nil_iff.mpr ht
  induction s with
  | nil => exact hnil
  | cons c s ih => simp only [List.cons_append, trimEnd_cons, ih]

theorem trimStart_append_of_blank {s : Text} (t : Text) (hs : ∀ c ∈ s, isBlank c = true) :
    trimStart (s ++ t) = trimStart t :=
  List.dropWhile_append_of_pos hs

/-- Blanks around a text are invisible to trimming. -/
theorem trim_blank_append_blank {s u : Text} (t : Text) (hs : ∀ c ∈ s, isBlank c = true)
    (hu : ∀ c ∈ u, isBlank c = true) : trim (s ++ t ++ u) = trim t := by
  rw [trim, List.append_assoc, trimStart_append_of_blank _ hs, trim, trimStart, trimStart,
    List.dropWhile_append]
  split
  next h =>
    have hd : u.dropWhile isBlank = [] := List.dropWhile_eq_nil_iff.mpr hu
    simp only [List.isEmpty_iff] at h
    rw [hd, h]
  next => exact trimEnd_append_of_blank _ hu

theorem trimStart_eq_self_iff {t : Text} :
    trimStart t = t ↔ ∀ c, t.head? = some c → isBlank c = false := by
  cases t with
  | nil => simp
  | cons c t =>
    by_cases hc : isBlank c = true
    · have hlen := List.length_dropWhile_le isBlank t
      constructor
      · intro h
        have := congrArg List.length h
        simp only [trimStart, List.dropWhile_cons, hc, if_true, List.length_cons] at this
        omega
      · intro h
        simp [h c rfl] at hc
    · simp [trimStart, hc]

theorem trimEnd_eq_self_iff {t : Text} :
    trimEnd t = t ↔ ∀ c, t.getLast? = some c → isBlank c = false := by
  rw [← List.head?_reverse, ← trimStart_eq_self_iff, trimEnd, trimStart,
    List.reverse_eq_iff]

theorem trimEnd_isPrefix (t : Text) : trimEnd t <+: t := List.rdropWhile_prefix isBlank t

theorem trimStart_isSuffix (t : Text) : trimStart t <:+ t := List.dropWhile_suffix isBlank

theorem trim_isInfix (t : Text) : trim t <:+: t :=
  (trimEnd_isPrefix _).isInfix.trans (trimStart_isSuffix t).isInfix

theorem mem_of_mem_trim {c : Char} {t : Text} (h : c ∈ trim t) : c ∈ t :=
  (trim_isInfix t).subset h

theorem mem_of_mem_trimEnd {c : Char} {t : Text} (h : c ∈ trimEnd t) : c ∈ t :=
  (trimEnd_isPrefix t).subset h

theorem getLast?_trimEnd {c : Char} {t : Text} (h : (trimEnd t).getLast? = some c) :
    isBlank c = false :=
  trimEnd_eq_self_iff.mp (List.rdropWhile_idempotent isBlank t) c h

theorem trim_cons_of_blank {c : Char} (hc : isBlank c = true) (t : Text) :
    trim (c :: t) = trim t := by
  rw [trim, trimStart, List.dropWhile_cons_of_pos hc, trim, trimStart]

theorem trim_cons_of_not_blank {c : Char} (hc : isBlank c = false) (t : Text) :
    trim (c :: t) = c :: trimEnd t := by
  rw [trim, trimStart, List.dropWhile_cons_of_neg (by simp [hc]), trimEnd_cons_of_not_blank hc]

/-- Trimming brings the first character that is not blank to the front. -/
theorem head?_trim_eq (t : Text) : (trim t).head? = t.find? (!isBlank ·) := by
  induction t with
  | nil => rfl
  | cons c t ih =>
    by_cases hc : isBlank c = true
    · rw [trim_cons_of_blank hc, ih, List.find?_cons_of_neg (by simp [hc])]
    · rw [Bool.not_eq_true] at hc
      rw [trim_cons_of_not_blank hc, List.find?_cons_of_pos (by simp [hc]), List.head?_cons]

theorem getLast?_trim_eq (t : Text) : (trim t).getLast? = t.reverse.find? (!isBlank ·) := by
  induction t with
  | nil => rfl
  | cons c t ih =>
    by_cases hc : isBlank c = true
    · rw [trim_cons_of_blank hc, ih, List.reverse_cons, List.find?_append]
      simp [hc]
    · rw [Bool.not_eq_true] at hc
      rw [trim_cons_of_not_blank hc, ← trimEnd_cons_of_not_blank hc, trimEnd,
        List.getLast?_reverse, List.find?_not_eq_head?_dropWhile]

theorem head?_trim {c : Char} {t : Text} (h : (trim t).head? = some c) : isBlank c = false := by
  rw [head?_trim_eq] at h
  simpa using List.find?_some h

theorem getLast?_trim {c : Char} {t : Text} (h : (trim t).getLast? = some c) :
    isBlank c = false :=
  getLast?_trimEnd h

theorem head?_trim_of_not_blank {c : Char} {t : Text} (h : t.head? = some c)
    (hc : isBlank c = false) : (trim t).head? = some c := by
  obtain ⟨u, rfl⟩ := List.head?_eq_some_iff.mp h
  rw [head?_trim_eq, List.find?_cons_of_pos (by simp [hc])]

theorem getLast?_trim_of_not_blank {c : Char} {t : Text} (h : t.getLast? = some c)
    (hc : isBlank c = false) : (trim t).getLast? = some c := by
  rw [← List.head?_reverse] at h
  obtain ⟨u, hu⟩ := List.head?_eq_some_iff.mp h
  rw [getLast?_trim_eq, hu, List.find?_cons_of_pos (by simp [hc])]

/-- A text is trimmed exactly when neither end is blank. -/
theorem trim_eq_self_iff {t : Text} :
    trim t = t ↔ (∀ c, t.head? = some c → isBlank c = false) ∧
      ∀ c, t.getLast? = some c → isBlank c = false := by
  constructor
  · intro h
    exact ⟨fun c hc => head?_trim (t := t) (h.symm ▸ hc),
      fun c hc => getLast?_trim (t := t) (h.symm ▸ hc)⟩
  · rintro ⟨hs, he⟩
    rw [trim, trimStart_eq_self_iff.mpr hs, trimEnd_eq_self_iff.mpr he]

theorem trim_of_not_blank {t : Text} (h : ∀ c ∈ t, isBlank c = false) : trim t = t :=
  trim_eq_self_iff.mpr
    ⟨fun c hc => h c (List.mem_of_head? hc), fun c hc => h c (List.mem_of_getLast? hc)⟩

@[simp] theorem trim_trim (t : Text) : trim (trim t) = trim t :=
  trim_eq_self_iff.mpr ⟨fun _ => head?_trim, fun _ => getLast?_trim⟩

theorem blank_iff {t : Text} : blank t = true ↔ trim t = [] := by
  rw [blank, List.isEmpty_iff]

theorem blank_eq_false_iff {t : Text} : blank t = false ↔ trim t ≠ [] := by
  rw [← Bool.not_eq_true, blank_iff]

@[simp] theorem trimEnd_trimEnd (t : Text) : trimEnd (trimEnd t) = trimEnd t :=
  List.rdropWhile_idempotent isBlank t

@[simp] theorem trimEnd_trim (t : Text) : trimEnd (trim t) = trim t := trimEnd_trimEnd _

/-- Blanks at the end can be cut before or after a text is put in front. -/
theorem trimEnd_append_trimEnd (s t : Text) : trimEnd (s ++ trimEnd t) = trimEnd (s ++ t) := by
  induction s with
  | nil => exact trimEnd_trimEnd t
  | cons c s ih => rw [List.cons_append, List.cons_append, trimEnd_cons, trimEnd_cons, ih]

theorem trim_trimEnd (t : Text) : trim (trimEnd t) = trim t := by
  have hblank : ∀ c ∈ t.rtakeWhile isBlank, isBlank c = true :=
    fun _ => List.mem_rtakeWhile_imp
  have h := trim_blank_append_blank (s := []) (trimEnd t) (by simp) hblank
  rw [List.nil_append, show trimEnd t = t.rdropWhile isBlank from rfl,
    List.rdropWhile_append_rtakeWhile] at h
  exact h.symm

@[simp] theorem keyForm_trim (t : Text) : keyForm (trim t) = keyForm t := by
  rw [keyForm, trim_trim, keyForm]

@[simp] theorem keyForm_trimEnd (t : Text) : keyForm (trimEnd t) = keyForm t := by
  rw [keyForm, trim_trimEnd, keyForm]

theorem blank_eq_of_keyForm_eq {s t : Text} (h : keyForm s = keyForm t) : blank s = blank t := by
  have hlength := congrArg List.isEmpty h
  simpa [keyForm, lowerAscii, blank] using hlength

end GatewayConfig.Text
