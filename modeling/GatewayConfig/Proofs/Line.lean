import GatewayConfig.Document.Format
import GatewayConfig.Proofs.Text.Lines
import GatewayConfig.Proofs.Text.Trim

/-! # What a line reads as

Each shape of line is described by an equivalence on the trimmed line. The shapes of headers are
told apart by what stands at the two ends.
-/

namespace GatewayConfig

namespace Text

def Bracketed (t : Text) : Prop := t.head? = some '[' ∧ t.getLast? = some ']'

instance (t : Text) : Decidable (Bracketed t) := inferInstanceAs (Decidable (_ ∧ _))

theorem isPrefixOf?_eq_some_iff {p t r : Text} : p.isPrefixOf? t = some r ↔ t = p ++ r := by
  induction p generalizing t with
  | nil => simp [List.isPrefixOf?]
  | cons c p ih =>
    cases t with
    | nil => simp [List.isPrefixOf?]
    | cons d t =>
      by_cases h : c = d
      · simp [List.isPrefixOf?, h, ih]
      · simp [List.isPrefixOf?, h, Ne.symm h]

theorem isSuffixOf?_eq_some_iff {s t r : Text} : s.isSuffixOf? t = some r ↔ t = r ++ s := by
  rw [List.isSuffixOf?, Option.map_eq_some_iff]
  constructor
  · rintro ⟨u, hu, rfl⟩
    rw [isPrefixOf?_eq_some_iff] at hu
    rw [← List.reverse_inj, hu, List.reverse_append, List.reverse_reverse]
  · rintro rfl
    exact ⟨r.reverse, by rw [isPrefixOf?_eq_some_iff, List.reverse_append], List.reverse_reverse r⟩

theorem between?_eq_some_iff {opening closing t m : Text} :
    between? opening closing t = some m ↔ t = opening ++ m ++ closing := by
  simp only [between?, Option.bind_eq_some_iff, isPrefixOf?_eq_some_iff, isSuffixOf?_eq_some_iff]
  constructor
  · rintro ⟨r, rfl, rfl⟩
    rw [List.append_assoc]
  · rintro rfl
    exact ⟨m ++ closing, List.append_assoc .., rfl⟩

theorem bracketed_iff {t : Text} : Bracketed t ↔ ∃ m, t = "[".toList ++ m ++ "]".toList := by
  constructor
  · rintro ⟨hopen, hclose⟩
    obtain ⟨u, rfl⟩ := List.head?_eq_some_iff.mp hopen
    rw [List.getLast?_cons] at hclose
    cases h : u.getLast? with
    | none => simp [h] at hclose
    | some c =>
      obtain ⟨m, rfl⟩ := List.getLast?_eq_some_iff.mp h
      simp only [h, Option.getD_some, Option.some.injEq] at hclose
      exact ⟨m, by simp [hclose]⟩
  · rintro ⟨m, rfl⟩
    exact ⟨rfl, List.getLast?_concat⟩

theorem isPrefixOf_singleton_iff {c : Char} {t : Text} :
    [c].isPrefixOf t = true ↔ t.head? = some c := by
  cases t with
  | nil => simp [List.isPrefixOf]
  | cons d t => simp [List.isPrefixOf, eq_comm (a := c)]

theorem isSuffixOf_singleton_iff {c : Char} {t : Text} :
    [c].isSuffixOf t = true ↔ t.getLast? = some c := by
  rw [List.isSuffixOf, ← List.head?_reverse]
  exact isPrefixOf_singleton_iff

theorem between?_brackets_eq_none_iff {t : Text} :
    between? "[".toList "]".toList t = none ↔ ¬Bracketed t := by
  rw [bracketed_iff, Option.eq_none_iff_forall_ne_some]
  simp only [ne_eq, between?_eq_some_iff, not_exists]

theorem Bracketed.trim_eq {t : Text} (h : Bracketed t) : trim t = t := by
  rw [trim_eq_self_iff, h.1, h.2]
  exact ⟨by rintro c ⟨⟩; decide, by rintro c ⟨⟩; decide⟩

end Text

namespace Line
open Text

theorem isSectionName_iff {name : Text} :
    isSectionName name = true ↔ trim name ≠ [] ∧ ¬Bracketed (trim name) := by
  have hopen : "[".toList.isPrefixOf (trim name) = true ↔ (trim name).head? = some '[' :=
    isPrefixOf_singleton_iff
  have hclose : "]".toList.isSuffixOf (trim name) = true ↔ (trim name).getLast? = some ']' :=
    isSuffixOf_singleton_iff
  simp only [isSectionName, Bracketed, Bool.and_eq_true, Bool.not_eq_true', ← Bool.not_eq_true,
    hopen, hclose, List.isEmpty_iff, ne_eq]

theorem interfaceLabel?_eq_some_iff {line label : Text} :
    interfaceLabel? line = some label ↔
      label ≠ [] ∧ line = "[[".toList ++ label ++ "]]".toList := by
  simp [interfaceLabel?, Option.filter_eq_some_iff, between?_eq_some_iff, and_comm]

/-- A labelled line has brackets around its bracketed label. -/
theorem bracketed_of_interfaceLabel? {name label : Text}
    (h : interfaceLabel? ("[".toList ++ name ++ "]".toList) = some label) : Bracketed name := by
  obtain ⟨-, h⟩ := interfaceLabel?_eq_some_iff.mp h
  have hsplit : "[".toList ++ name ++ "]".toList =
      "[".toList ++ ("[".toList ++ label ++ "]".toList) ++ "]".toList := by
    rw [h]
    simp
  have hname : name = "[".toList ++ label ++ "]".toList :=
    List.append_cancel_left (List.append_cancel_right hsplit)
  exact bracketed_iff.mpr ⟨label, hname⟩

theorem ofTrimmed_of_not_bracketed {line : Text} (h : ¬Bracketed line) :
    ofTrimmed line = match line.span (· != '=') with
      | (key, _ :: value) => entry (trim key) (trim value)
      | (_, []) => unrecognized := by
  have hlabel : interfaceLabel? line = none := by
    rw [Option.eq_none_iff_forall_ne_some]
    intro label hlabel
    obtain ⟨-, hline⟩ := interfaceLabel?_eq_some_iff.mp hlabel
    exact h (bracketed_iff.mpr ⟨"[".toList ++ label ++ "]".toList, by simp [hline]⟩)
  have hname : between? "[".toList "]".toList line = none := between?_brackets_eq_none_iff.mpr h
  rw [ofTrimmed, hlabel]
  generalize between? "[".toList "]".toList line = inner at hname ⊢
  subst hname
  rfl

/-- A bracketed line is a header of one of the three kinds. -/
theorem ofTrimmed_of_bracketed {line name : Text}
    (h : line = "[".toList ++ name ++ "]".toList) :
    ofTrimmed line = match interfaceLabel? line with
      | some label => interfaceHeader label
      | none => if isSectionName name then sectionHeader name else malformedHeader := by
  have hname : between? "[".toList "]".toList line = some name := between?_eq_some_iff.mpr h
  rw [ofTrimmed]
  generalize between? "[".toList "]".toList line = inner at hname ⊢
  subst hname
  rfl

/-- A line that is neither blank nor a comment is what its trimmed form is. -/
theorem classify_eq_ofTrimmed_iff {raw : Text} {line : Line} (hblank : line ≠ blank)
    (hcomment : line ≠ comment) :
    classify raw = line ↔ trim raw ≠ [] ∧ (trim raw).head? ≠ some '#' ∧
      (trim raw).head? ≠ some ';' ∧ ofTrimmed (trim raw) = line := by
  unfold classify
  split
  next h => simp [h, hblank.symm]
  next h => simp [h, hcomment.symm]
  next h => simp [h, hcomment.symm]
  next hnil hhash hsemi =>
    have hne (c : Char) (hc : ∀ t, trim raw = c :: t → False) : (trim raw).head? ≠ some c := by
      intro h
      obtain ⟨t, ht⟩ := List.head?_eq_some_iff.mp h
      exact hc t ht
    simp [hne '#' hhash, hne ';' hsemi, show trim raw ≠ [] from hnil]

theorem ofTrimmed_ne (line : Text) : ofTrimmed line ≠ blank ∧ ofTrimmed line ≠ comment := by
  unfold ofTrimmed
  split
  next => exact ⟨by simp, by simp⟩
  next =>
    split
    next => split <;> exact ⟨by simp, by simp⟩
    next => split <;> exact ⟨by simp, by simp⟩

/-- A line is blank exactly when nothing is left of it without its blanks. -/
theorem classify_eq_blank_iff {raw : Text} : classify raw = blank ↔ trim raw = [] := by
  unfold classify
  split
  next h => simp [h]
  next h => simp [h]
  next h => simp [h]
  next hnil _ _ => simp [(ofTrimmed_ne _).1, show trim raw ≠ [] from hnil]

theorem classify_eq_comment_iff {raw : Text} :
    classify raw = comment ↔ (trim raw).head? = some '#' ∨ (trim raw).head? = some ';' := by
  unfold classify
  split
  next h => simp [h]
  next h => simp [h]
  next h => simp [h]
  next hhash hsemi =>
    refine iff_of_false (ofTrimmed_ne _).2 ?_
    rw [List.head?_eq_some_iff, List.head?_eq_some_iff]
    rintro (⟨t, h⟩ | ⟨t, h⟩)
    · exact hhash t h
    · exact hsemi t h

/-- Only a bracketed line is a header. -/
theorem classify_of_not_bracketed {raw : Text} (h : ¬Bracketed (trim raw)) :
    (classify raw = blank ∨ classify raw = comment ∨ classify raw = unrecognized) ∨
      ∃ key value, classify raw = entry key value := by
  unfold classify
  split
  next => exact .inl (.inl rfl)
  next => exact .inl (.inr (.inl rfl))
  next => exact .inl (.inr (.inl rfl))
  next =>
    rw [ofTrimmed_of_not_bracketed h]
    split
    next => exact .inr ⟨_, _, rfl⟩
    next => exact .inl (.inr (.inr rfl))

/-- A header is a bracketed line, and of the three kinds it is the one that the label and the name
between the brackets decide on. -/
theorem classify_eq_header_iff {raw : Text} {line : Line} (hblank : line ≠ blank)
    (hcomment : line ≠ comment) (hentry : ∀ key value, line ≠ entry key value)
    (hunrecognized : line ≠ unrecognized) :
    classify raw = line ↔ ∃ name, trim raw = "[".toList ++ name ++ "]".toList ∧
      (match interfaceLabel? (trim raw) with
        | some label => interfaceHeader label
        | none => if isSectionName name then sectionHeader name else malformedHeader) = line := by
  rw [classify_eq_ofTrimmed_iff hblank hcomment]
  constructor
  · rintro ⟨-, -, -, h⟩
    by_cases hb : Bracketed (trim raw)
    · obtain ⟨name, hname⟩ := bracketed_iff.mp hb
      exact ⟨name, hname, (ofTrimmed_of_bracketed hname).symm.trans h⟩
    · rw [ofTrimmed_of_not_bracketed hb] at h
      split at h
      next => exact absurd h.symm (hentry _ _)
      next => exact absurd h.symm hunrecognized
  · rintro ⟨name, hname, h⟩
    exact ⟨by simp [hname], by simp [hname], by simp [hname],
      (ofTrimmed_of_bracketed hname).trans h⟩

/-- A line is a section header exactly when its name stands in single brackets and may be a
section's name. -/
theorem classify_eq_sectionHeader_iff {raw name : Text} :
    classify raw = sectionHeader name ↔ trim raw = "[".toList ++ name ++ "]".toList ∧
      interfaceLabel? (trim raw) = none ∧ isSectionName name = true := by
  rw [classify_eq_header_iff (by simp) (by simp) (by simp) (by simp)]
  constructor
  · rintro ⟨m, hm, h⟩
    split at h
    next => cases h
    next hlabel =>
      split at h
      next hname =>
        cases h
        exact ⟨hm, hlabel, hname⟩
      next => cases h
  · rintro ⟨h, hlabel, hname⟩
    exact ⟨name, h, by simp [hlabel, hname]⟩

/-- A line is an interface header exactly when a label stands in double brackets. -/
theorem classify_eq_interfaceHeader_iff {raw label : Text} :
    classify raw = interfaceHeader label ↔
      label ≠ [] ∧ trim raw = "[[".toList ++ label ++ "]]".toList := by
  rw [classify_eq_header_iff (by simp) (by simp) (by simp) (by simp),
    ← interfaceLabel?_eq_some_iff]
  constructor
  · rintro ⟨m, -, h⟩
    split at h
    next hlabel =>
      cases h
      exact hlabel
    next => split at h <;> cases h
  · intro h
    obtain ⟨-, hline⟩ := interfaceLabel?_eq_some_iff.mp h
    exact ⟨"[".toList ++ label ++ "]".toList, by simp [hline], by simp [h]⟩

/-- A line is a malformed header exactly when it is bracketed, has no label and its name may not be
a section's name. -/
theorem classify_eq_malformedHeader_iff {raw : Text} :
    classify raw = malformedHeader ↔ ∃ name, trim raw = "[".toList ++ name ++ "]".toList ∧
      interfaceLabel? (trim raw) = none ∧ isSectionName name = false := by
  rw [classify_eq_header_iff (by simp) (by simp) (by simp) (by simp)]
  refine exists_congr fun name => and_congr_right fun _ => ?_
  cases interfaceLabel? (trim raw) with
  | some label => simp
  | none => cases isSectionName name <;> simp

theorem classify_label {label : Text} (h : label ≠ []) :
    classify ("[[".toList ++ label ++ "]]".toList) = interfaceHeader label := by
  refine classify_eq_interfaceHeader_iff.mpr ⟨h, Bracketed.trim_eq ?_⟩
  exact bracketed_iff.mpr ⟨"[".toList ++ label ++ "]".toList, by simp⟩

/-- A line is an entry exactly when it is neither a comment nor bracketed and has an equals sign,
the first of which ends the key. -/
theorem classify_eq_entry_iff {raw key value : Text} :
    classify raw = entry key value ↔ ∃ a b, trim raw = a ++ '=' :: b ∧ '=' ∉ a ∧
      (trim raw).head? ≠ some '#' ∧ (trim raw).head? ≠ some ';' ∧ ¬Bracketed (trim raw) ∧
      key = trim a ∧ value = trim b := by
  rw [classify_eq_ofTrimmed_iff (by simp) (by simp)]
  constructor
  · rintro ⟨-, hhash, hsemi, h⟩
    have hb : ¬Bracketed (trim raw) := by
      intro hb
      obtain ⟨m, hm⟩ := bracketed_iff.mp hb
      rw [ofTrimmed_of_bracketed hm] at h
      split at h
      next => cases h
      next => split at h <;> cases h
    rw [ofTrimmed_of_not_bracketed hb] at h
    split at h
    next a c b hspan =>
      obtain ⟨heq, rfl, ha⟩ := span_ne_eq_cons_iff.mp hspan
      cases h
      exact ⟨a, b, heq, ha, hhash, hsemi, hb, rfl, rfl⟩
    next => cases h
  · rintro ⟨a, b, h, ha, hhash, hsemi, hb, rfl, rfl⟩
    refine ⟨by simp [h], hhash, hsemi, ?_⟩
    rw [ofTrimmed_of_not_bracketed hb, span_ne_eq_cons_iff.mpr ⟨h, rfl, ha⟩]

/-- A line is unrecognized exactly when it is not blank, no comment, not bracketed and has no equals
sign. -/
theorem classify_eq_unrecognized_iff {raw : Text} :
    classify raw = unrecognized ↔ trim raw ≠ [] ∧ (trim raw).head? ≠ some '#' ∧
      (trim raw).head? ≠ some ';' ∧ ¬Bracketed (trim raw) ∧ '=' ∉ trim raw := by
  rw [classify_eq_ofTrimmed_iff (by simp) (by simp)]
  refine and_congr_right fun _ => and_congr_right fun _ => and_congr_right fun _ => ?_
  by_cases hb : Bracketed (trim raw)
  · obtain ⟨name, hname⟩ := bracketed_iff.mp hb
    refine iff_of_false ?_ fun h => h.1 hb
    rw [ofTrimmed_of_bracketed hname]
    split
    next => simp
    next => split <;> simp
  · rw [ofTrimmed_of_not_bracketed hb]
    split
    next a c b hspan =>
      obtain ⟨heq, rfl, -⟩ := span_ne_eq_cons_iff.mp hspan
      simp [heq]
    next a hspan =>
      obtain ⟨rfl, ha⟩ := span_ne_eq_nil_iff.mp hspan
      simp [hb, ha]

theorem trim_of_classify_eq_entry {raw key value : Text} (h : classify raw = entry key value) :
    trim key = key ∧ trim value = value := by
  obtain ⟨a, b, -, -, -, -, -, rfl, rfl⟩ := classify_eq_entry_iff.mp h
  exact ⟨trim_trim a, trim_trim b⟩

end Line

end GatewayConfig
