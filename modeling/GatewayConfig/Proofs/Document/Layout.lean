import GatewayConfig.Proofs.Document.Blocks
import GatewayConfig.Proofs.Document.OutlineReading
import Mathlib.Logic.Relation

/-! # Changes of layout

A line is what its trimmed form is, so blanks at the two ends of a text, line breaks among them,
make no difference to the reader. A line without a header and without an entry does not get into a
document, nor does an interface header outside of the section of the interfaces. Main statement:
texts that differ in nothing else read as the same document.
-/

namespace GatewayConfig
open Text

theorem Line.classify_congr {s t : Text} (h : trim s = trim t) : classify s = classify t := by
  rw [classify, classify, h]

/-- A text ends within its last line, which text behind it continues. -/
theorem Text.exists_lines_append (t : Text) :
    ∃ before last, '\n' ∉ last ∧ ∀ u, lines (t ++ u) = before ++ lines (last ++ u) := by
  induction t with
  | nil => exact ⟨[], [], List.not_mem_nil, fun u => rfl⟩
  | cons c t ih =>
    obtain ⟨before, last, hlast, hlines⟩ := ih
    by_cases hc : c = '\n'
    · subst hc
      refine ⟨[] :: before, last, hlast, fun u => ?_⟩
      rw [List.cons_append, lines_cons_newline, hlines, List.cons_append]
    · cases before with
      | nil =>
        refine ⟨[], c :: last, by simp [hlast, Ne.symm hc], fun u => ?_⟩
        rw [List.cons_append, lines_cons_of_ne hc, hlines, List.nil_append, List.nil_append,
          List.cons_append, lines_cons_of_ne hc]
      | cons first before =>
        refine ⟨(c :: first) :: before, last, hlast, fun u => ?_⟩
        rw [List.cons_append, lines_cons_of_ne hc, hlines, List.cons_append,
          List.modifyHead_cons, List.cons_append]

namespace Reading

theorem through_lines_cons_of_blank (r : Reading) {c : Char} (hc : isBlank c = true) (t : Text) :
    r.through (lines (c :: t)) = r.through (lines t) := by
  by_cases hnewline : c = '\n'
  · rw [hnewline, lines_cons_newline, through_cons]
    rfl
  · obtain ⟨first, rest, hlines⟩ := exists_lines_eq_cons t
    rw [lines_cons_of_ne hnewline, hlines, List.modifyHead_cons, through_cons, through_cons,
      Line.classify_congr (trim_cons_of_blank hc first)]

theorem through_lines_concat_of_blank (r : Reading) (t : Text) {c : Char}
    (hc : isBlank c = true) : r.through (lines (t ++ [c])) = r.through (lines t) := by
  by_cases hnewline : c = '\n'
  · rw [hnewline, lines_append_newline, through_append]
    rfl
  · obtain ⟨before, last, hlast, hlines⟩ := exists_lines_append t
    have htrim : trim (last ++ [c]) = trim last :=
      trim_blank_append_blank (s := []) last (by simp) (by simpa using hc)
    have hwith : lines (t ++ [c]) = before ++ [last ++ [c]] := by
      rw [hlines, lines_of_not_mem (by simp [hlast, Ne.symm hnewline])]
    have hwithout : lines t = before ++ [last] := by
      have := hlines []
      rwa [List.append_nil, List.append_nil, lines_of_not_mem hlast] at this
    rw [hwith, hwithout, through_append, through_append, through_cons, through_cons,
      Line.classify_congr htrim]

theorem through_lines_append_of_blank (r : Reading) (t : Text) {u : Text}
    (hu : ∀ c ∈ u, isBlank c = true) : r.through (lines (t ++ u)) = r.through (lines t) := by
  induction u generalizing t with
  | nil => rw [List.append_nil]
  | cons c u ih =>
    obtain ⟨hc, hu⟩ := List.forall_mem_cons.mp hu
    rw [← List.singleton_append, ← List.append_assoc, ih _ hu, through_lines_concat_of_blank r t hc]

theorem through_lines_trimStart (r : Reading) (t : Text) :
    r.through (lines (trimStart t)) = r.through (lines t) := by
  induction t with
  | nil => rfl
  | cons c t ih =>
    rw [trimStart, List.dropWhile_cons]
    split
    next hc => rw [through_lines_cons_of_blank r hc]; exact ih
    next => rfl

theorem through_lines_trimEnd (r : Reading) (t : Text) :
    r.through (lines (trimEnd t)) = r.through (lines t) := by
  have hblank : ∀ c ∈ t.rtakeWhile isBlank, isBlank c = true :=
    fun _ => List.mem_rtakeWhile_imp
  have h := through_lines_append_of_blank r (trimEnd t) hblank
  rwa [show trimEnd t = t.rdropWhile isBlank from rfl, List.rdropWhile_append_rtakeWhile,
    eq_comm] at h

/-- Blanks around a text are invisible to the reader. -/
theorem through_lines_trim (r : Reading) (t : Text) :
    r.through (lines (trim t)) = r.through (lines t) := by
  rw [trim, through_lines_trimEnd, through_lines_trimStart]

end Reading

/-- The line holds neither a header nor an entry with a key. -/
def Line.isSilent : Line → Bool
  | blank | comment | unrecognized => true
  | entry key _ => key.isEmpty
  | interfaceHeader _ | sectionHeader _ | malformedHeader => false

/-- A change to the lines of a text that leaves alone what the text says. -/
inductive LayoutChange : List Text → List Text → Prop
  /-- A silent line comes in, wherever it is. -/
  | silentLine (above below : List Text) (l : Text) (h : (Line.classify l).isSilent = true) :
    LayoutChange (above ++ below) (above ++ l :: below)
  /-- An interface header comes in where the section of the interfaces is not open. -/
  | strayHeader (above below : List Text) (label : Text) (hlabel : label ≠ [])
    (hplace : Outline.inInterfaces (above.map Line.classify) above.length = false) :
    LayoutChange (above ++ below) (above ++ ("[[".toList ++ label ++ "]]".toList) :: below)
  /-- Blanks are put around a line, a carriage return at its end for one. -/
  | blanks (above below : List Text) (before l after : Text)
    (hbefore : ∀ c ∈ before, isBlank c = true) (hafter : ∀ c ∈ after, isBlank c = true) :
    LayoutChange (above ++ l :: below) (above ++ (before ++ l ++ after) :: below)

/-- Two lists of lines differ by such changes, made in either direction and any number of times. -/
def SameUpToLayout : List Text → List Text → Prop := Relation.EqvGen LayoutChange

namespace Reading

theorem step_of_isSilent (r : Reading) {l : Line} (h : l.isSilent = true) : r.step l = r := by
  cases l with
  | blank | comment | unrecognized => rfl
  | entry key value => exact if_pos h
  | interfaceHeader | sectionHeader | malformedHeader => cases h

theorem through_of_isSilent (r : Reading) {ls : List Text}
    (h : ∀ l ∈ ls, (Line.classify l).isSilent = true) : r.through ls = r := by
  induction ls with
  | nil => rfl
  | cons l ls ih =>
    obtain ⟨hl, hls⟩ := List.forall_mem_cons.mp h
    rw [through_cons, r.step_of_isSilent hl, ih hls]

theorem allowsInterface_through (ls : List Text) :
    (start.through ls).place.allowsInterface =
      Outline.inInterfaces (ls.map Line.classify) ls.length := by
  have hagrees := Outline.agrees_foldl (ls.map Line.classify) fun _ _ => Outline.trimmed_of_entry_mem
  rw [through, hagrees.allows, List.length_map]

theorem through_eq_of_layoutChange {ls ms : List Text} (h : LayoutChange ls ms) :
    start.through ls = start.through ms := by
  cases h with
  | silentLine above below l hl =>
    rw [through_append, through_append, through_cons, step_of_isSilent _ hl]
  | strayHeader above below label hlabel hplace =>
    have hstray : ¬(start.through above).place.allowsInterface = true := by
      rw [allowsInterface_through, hplace]
      exact Bool.false_ne_true
    rw [through_append, through_append, through_cons, Line.classify_label hlabel, step,
      if_neg hstray]
  | blanks above below before l after hbefore hafter =>
    rw [through_append, through_append, through_cons, through_cons,
      Line.classify_congr (trim_blank_append_blank l hbefore hafter)]

theorem through_eq_of_sameUpToLayout {ls ms : List Text} (h : SameUpToLayout ls ms) :
    start.through ls = start.through ms := by
  induction h with
  | rel ls ms h => exact through_eq_of_layoutChange h
  | refl ls => rfl
  | symm ls ms _ ih => exact ih.symm
  | trans ls ms ns _ _ ih ih' => exact ih.trans ih'

end Reading

/-- A text reads as the same document in whatever layout. -/
theorem Document.read_eq_of_sameUpToLayout {t u : Text}
    (h : SameUpToLayout (lines t) (lines u)) (firstId : Nat) : read t firstId = read u firstId := by
  rw [read, read, Reading.ofText_eq_through, Reading.ofText_eq_through,
    Reading.through_eq_of_sameUpToLayout h]

theorem Document.read_eq_of_sameUpToLayout_crlf :
    let t := "[peers]\na = 1\n= b\n[interfaces]\n[[Roof]]".toList
    let u := "[peers]\r\n[[Hall]]\na = 1\n# [x]\n[interfaces]\n\t[[Roof]]\u2003".toList
    SameUpToLayout (lines t) (lines u) ∧ read t 4 = read u 4 := by
  intro t u
  have ht : lines t = ["[peers]".toList, "a = 1".toList, "= b".toList, "[interfaces]".toList,
      "[[Roof]]".toList] := by decide +kernel
  have hu : lines u = ["[peers]\r".toList, "[[Hall]]".toList, "a = 1".toList, "# [x]".toList,
      "[interfaces]".toList, "\t[[Roof]]\u2003".toList] := by decide +kernel
  have hlayout : SameUpToLayout (lines t) (lines u) := by
    rw [ht, hu]
    refine .trans _ _ _ (.symm _ _ (.rel _ _ (.silentLine ["[peers]".toList, "a = 1".toList]
      ["[interfaces]".toList, "[[Roof]]".toList] "= b".toList (by decide +kernel)))) ?_
    refine .trans _ _ _ (.rel _ _ (.silentLine ["[peers]".toList, "a = 1".toList]
      ["[interfaces]".toList, "[[Roof]]".toList] "# [x]".toList (by decide +kernel))) ?_
    refine .trans _ _ _ (.rel _ _ (.strayHeader ["[peers]".toList]
      ["a = 1".toList, "# [x]".toList, "[interfaces]".toList, "[[Roof]]".toList]
      "Hall".toList (by decide) (by decide +kernel))) ?_
    refine .trans _ _ _ (.rel _ _ (.blanks [] ["[[Hall]]".toList, "a = 1".toList, "# [x]".toList,
      "[interfaces]".toList, "[[Roof]]".toList] [] "[peers]".toList ['\r'] (List.forall_mem_nil _)
      (List.forall_mem_singleton.mpr rfl))) ?_
    exact .rel _ _ (.blanks ["[peers]\r".toList, "[[Hall]]".toList, "a = 1".toList,
      "# [x]".toList, "[interfaces]".toList] [] ['\t'] "[[Roof]]".toList ['\u2003']
      (List.forall_mem_singleton.mpr rfl) (List.forall_mem_singleton.mpr rfl))
  exact ⟨hlayout, read_eq_of_sameUpToLayout hlayout 4⟩

end GatewayConfig
