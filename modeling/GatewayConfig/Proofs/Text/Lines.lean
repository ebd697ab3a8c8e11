import GatewayConfig.Text.Basic
import Mathlib.Data.List.Basic
import Mathlib.Data.List.TakeDrop
import Mathlib.Data.List.TakeWhile

/-! # Laws of splitting

A text is split at the first place where a character stands, or into its lines. No line holds a
line break, and splitting into lines undoes joining pieces that hold none. What a joined text holds
is in one of its pieces or in the separator.
-/

namespace GatewayConfig.Text

theorem span_ne_eq_cons_iff {c d : Char} {t a b : Text} :
    t.span (· != c) = (a, d :: b) ↔ t = a ++ d :: b ∧ d = c ∧ c ∉ a := by
  rw [List.span_eq_takeWhile_dropWhile, Prod.mk.injEq]
  constructor
  · rintro ⟨rfl, hdrop⟩
    have hd := List.head?_dropWhile_not (· != c) t
    rw [hdrop] at hd
    refine ⟨?_, by simpa using hd, fun hc => ?_⟩
    · rw [← hdrop, List.takeWhile_append_dropWhile]
    · simpa using List.mem_takeWhile_imp hc
  · rintro ⟨rfl, rfl, hd⟩
    have hstop : ∀ x ∈ a, (x != d) = true := fun x hx => bne_iff_ne.mpr fun h => hd (h ▸ hx)
    rw [List.takeWhile_append_of_pos hstop, List.dropWhile_append_of_pos hstop]
    simp

theorem span_ne_eq_nil_iff {c : Char} {t a : Text} :
    t.span (· != c) = (a, []) ↔ t = a ∧ c ∉ a := by
  rw [List.span_eq_takeWhile_dropWhile, Prod.mk.injEq, List.dropWhile_eq_nil_iff]
  constructor
  · rintro ⟨rfl, hall⟩
    rw [List.takeWhile_eq_self_iff.mpr hall]
    exact ⟨rfl, fun hc => by simpa using hall c hc⟩
  · rintro ⟨rfl, hc⟩
    have hall : ∀ x ∈ t, (x != c) = true := fun x hx => bne_iff_ne.mpr fun h => hc (h ▸ hx)
    exact ⟨List.takeWhile_eq_self_iff.mpr hall, hall⟩

theorem lines_append_newline (s t : Text) : lines (s ++ '\n' :: t) = lines s ++ lines t :=
  List.splitOn_append_cons_self s t

theorem lines_cons_newline (t : Text) : lines ('\n' :: t) = [] :: lines t :=
  lines_append_newline [] t

theorem lines_cons_of_ne {c : Char} (hc : c ≠ '\n') (t : Text) :
    lines (c :: t) = (lines t).modifyHead (c :: ·) := by
  simp only [lines, List.splitOn_cons_eq_if_modifyHead, beq_iff_eq, hc, if_false]

theorem exists_lines_eq_cons (t : Text) : ∃ first rest, lines t = first :: rest :=
  List.exists_cons_of_ne_nil (List.splitOn_ne_nil '\n' t)

theorem lines_of_not_mem {t : Text} (h : '\n' ∉ t) : lines t = [t] := List.splitOn_eq_singleton h

theorem newline_not_mem_of_mem_lines {t l : Text} (h : l ∈ lines t) : '\n' ∉ l := by
  induction t generalizing l with
  | nil =>
    rw [lines, List.splitOn_nil, List.mem_singleton] at h
    simp [h]
  | cons c t ih =>
    by_cases hc : c = '\n'
    · rw [hc, lines_cons_newline] at h
      rcases List.mem_cons.mp h with rfl | h
      · simp
      · exact ih h
    · obtain ⟨first, rest, hsplit⟩ := exists_lines_eq_cons t
      rw [lines_cons_of_ne hc, hsplit, List.modifyHead_cons] at h
      rw [hsplit] at ih
      rcases List.mem_cons.mp h with rfl | h
      · have hfirst : '\n' ∉ first := ih List.mem_cons_self
        simp [hfirst, Ne.symm hc]
      · exact ih (List.mem_cons_of_mem _ h)

theorem join_cons_ne_nil {piece : Text} (h : piece ≠ []) (separator : Text)
    (pieces : List Text) : join separator (piece :: pieces) ≠ [] := by
  cases pieces with
  | nil => simpa [join] using h
  | cons next rest => simp [join, h]

/-- A joined text is made of the separator and the pieces. -/
theorem mem_of_mem_join {c : Char} {separator : Text} {pieces : List Text}
    (h : c ∈ join separator pieces) : c ∈ separator ∨ ∃ piece ∈ pieces, c ∈ piece := by
  induction pieces with
  | nil => cases h
  | cons piece rest ih =>
    cases rest with
    | nil => exact Or.inr ⟨piece, List.mem_cons_self, by simpa [join] using h⟩
    | cons next rest =>
      rw [join, List.intercalate_cons_cons, ← join, List.append_assoc, List.mem_append,
        List.mem_append] at h
      rcases h with h | h | h
      · exact Or.inr ⟨piece, List.mem_cons_self, h⟩
      · exact Or.inl h
      · exact (ih h).imp_right fun ⟨p, hp, hc⟩ => ⟨p, List.mem_cons_of_mem _ hp, hc⟩

/-- The lines of joined pieces are those of the pieces one after the other. -/
theorem lines_join_flatMap {pieces : List Text} (hne : pieces ≠ []) :
    lines (join "\n".toList pieces) = pieces.flatMap lines := by
  induction pieces with
  | nil => exact absurd rfl hne
  | cons p rest ih =>
    cases rest with
    | nil => simp [join]
    | cons q rest =>
      have hjoin : join "\n".toList (p :: q :: rest) =
          p ++ '\n' :: join "\n".toList (q :: rest) := by
        simp [join]
      rw [hjoin, lines_append_newline, ih (by simp)]
      rfl

/-- Of blocks of pieces with an empty line between neighbours, each is followed by an empty line. -/
theorem lines_join_blocks {blocks : List (List Text)} (hne : blocks ≠ [])
    (h : ∀ block ∈ blocks, block ≠ []) :
    lines (join "\n\n".toList (blocks.map (join "\n".toList)) ++ "\n".toList) =
      blocks.flatMap fun block => block.flatMap lines ++ [[]] := by
  induction blocks with
  | nil => exact absurd rfl hne
  | cons block rest ih =>
    obtain ⟨hblock, hrest⟩ := List.forall_mem_cons.mp h
    have hempty : lines [] = [[]] := rfl
    cases rest with
    | nil =>
      have hlast : join "\n\n".toList ([block].map (join "\n".toList)) ++ "\n".toList =
          join "\n".toList block ++ '\n' :: [] := by
        simp [join]
      rw [hlast, lines_append_newline, lines_join_flatMap hblock, hempty, List.flatMap_singleton]
    | cons next rest =>
      have hjoin : join "\n\n".toList ((block :: next :: rest).map (join "\n".toList)) ++
            "\n".toList =
          join "\n".toList block ++ '\n' :: ([] ++ '\n' ::
            (join "\n\n".toList ((next :: rest).map (join "\n".toList)) ++ "\n".toList)) := by
        simp [join]
      rw [hjoin, lines_append_newline, lines_append_newline, lines_join_flatMap hblock, hempty,
        ih (by simp) hrest, List.flatMap_cons (x := block), List.append_assoc]

theorem flatMap_lines {pieces : List Text} (h : ∀ p ∈ pieces, '\n' ∉ p) :
    pieces.flatMap lines = pieces := by
  rw [List.flatMap_congr fun p hp => lines_of_not_mem (h p hp), List.flatMap_singleton']

end GatewayConfig.Text
