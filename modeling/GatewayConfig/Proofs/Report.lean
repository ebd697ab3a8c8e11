import GatewayConfig.Proofs.Document.Reading
import GatewayConfig.Proofs.Validation.Messages
import GatewayConfig.Report

/-! # Reports line by line

A report has one line for every issue and one for their counts. Main statement: this is so for every
text that is read, since no key that is read can break the line of the issue that quotes it.
-/

namespace GatewayConfig
open Text

namespace Text

theorem unlines_cons (piece : Text) (rest : List Text) :
    unlines (piece :: rest) = piece ++ '\n' :: unlines rest := by
  rw [unlines, List.flatMap_cons, ← unlines, List.append_assoc]
  rfl

variable {pieces : List Text} (h : ∀ p ∈ pieces, '\n' ∉ p)
include h

/-- Pieces without a line break are the lines, and nothing stands behind the last line feed. -/
theorem lines_unlines : lines (unlines pieces) = pieces ++ [[]] := by
  induction pieces with
  | nil => rfl
  | cons piece rest ih =>
    obtain ⟨hpiece, hrest⟩ := List.forall_mem_cons.mp h
    rw [unlines_cons, lines_append_newline, lines_of_not_mem hpiece, ih hrest]
    rfl

theorem count_newline_unlines : (unlines pieces).count '\n' = pieces.length := by
  induction pieces with
  | nil => rfl
  | cons piece rest ih =>
    obtain ⟨hpiece, hrest⟩ := List.forall_mem_cons.mp h
    rw [unlines_cons, List.count_append, List.count_eq_zero_of_not_mem hpiece,
      List.count_cons_self, ih hrest, List.length_cons, Nat.zero_add]

end Text

namespace Verdict

theorem newline_not_mem_summary (v : Verdict) : '\n' ∉ v.summary := by
  have hverdict : '\n' ∉ if v.valid then "valid".toList else "invalid".toList := by
    cases v.valid <;> decide
  exact List.not_mem_append (List.not_mem_append (List.not_mem_append (List.not_mem_append
    (List.not_mem_append hverdict (by decide)) (newline_not_mem_ofNat _)) (by decide))
    (newline_not_mem_ofNat _)) (by decide)

theorem head?_summary (v : Verdict) : v.summary.head? = some (if v.valid then 'v' else 'i') := by
  rw [summary]
  cases v.valid <;> rfl

theorem valid_prefix_summary_iff {v : Verdict} :
    "valid".toList <+: v.summary ↔ v.valid = true := by
  constructor
  · rintro ⟨rest, hsummary⟩
    have hfirst : v.summary.head? = some 'v' := by
      rw [← hsummary]
      rfl
    rw [head?_summary] at hfirst
    cases hvalid : v.valid
    · simp [hvalid] at hfirst
    · rfl
  · intro hvalid
    rw [summary, hvalid]
    simp only [if_true, List.append_assoc]
    exact List.prefix_append _ _

/-- Errors are with the errors, warnings with the warnings, and each issue is on one line. -/
structure Orderly (v : Verdict) : Prop where
  errors_level : ∀ e ∈ v.errors, e.level = .error
  warnings_level : ∀ w ∈ v.warnings, w.level = .warning
  oneLine : ∀ e ∈ v.issues, '\n' ∉ e.text

namespace Orderly

variable {v : Verdict} (h : v.Orderly)
include h

theorem oneLine_report : ∀ l ∈ v.issues.map Issue.text ++ [v.summary], '\n' ∉ l := by
  intro l hl
  rcases List.mem_append.mp hl with hl | hl
  · obtain ⟨e, he, rfl⟩ := List.mem_map.mp hl
    exact h.oneLine e he
  · rw [List.mem_singleton.mp hl]
    exact v.newline_not_mem_summary

theorem lines_report : lines v.report =
    v.errors.map Issue.text ++ v.warnings.map Issue.text ++ [v.summary] ++ [[]] := by
  rw [report, lines_unlines h.oneLine_report, issues, List.map_append]

theorem count_newline_report :
    v.report.count '\n' = v.errors.length + v.warnings.length + 1 := by
  rw [report, count_newline_unlines h.oneLine_report, List.length_append, List.length_map, issues,
    List.length_append, List.length_singleton]

/-- A line starts like an error only if there is one. -/
theorem exists_error_line_iff :
    (∃ l ∈ lines v.report, "error ".toList <+: l) ↔ v.errors ≠ [] := by
  rw [h.lines_report]
  simp only [List.mem_append, List.mem_map, List.mem_singleton]
  constructor
  · rintro ⟨l, hl, hstart⟩
    have hfirst : l.head? = some 'e' := by
      obtain ⟨rest, rfl⟩ := hstart
      rfl
    rcases hl with ((⟨e, he, -⟩ | ⟨w, hw, rfl⟩) | rfl) | rfl
    · exact List.ne_nil_of_mem he
    · have hwarning : w.text.head? = some 'w' := by
        rw [Issue.text, h.warnings_level w hw]
        rfl
      exact absurd (hwarning.symm.trans hfirst) (by decide)
    · rw [v.head?_summary] at hfirst
      cases hvalid : v.valid <;> simp [hvalid] at hfirst
    · cases hfirst
  · intro hsome
    obtain ⟨e, he⟩ := List.exists_mem_of_ne_nil _ hsome
    refine ⟨e.text, .inl (.inl (.inl ⟨e, he, rfl⟩)), ?_⟩
    rw [Issue.text, h.errors_level e he, List.append_assoc, List.append_assoc]
    exact List.prefix_append _ _

end Orderly

end Verdict

namespace Document

/-- The check of a document is orderly unless an interface holds a line break. -/
theorem orderly_validate {d : Document} (h : ∀ i ∈ d.interfaces, i.Unbroken) :
    d.validate.Orderly where
  errors_level := fun _ he => (error_oneLine h he).1
  warnings_level := fun _ hw => (warning_oneLine hw).1
  oneLine := by
    intro e he
    rcases List.mem_append.mp he with he | he
    · exact (error_oneLine h he).2
    · exact (warning_oneLine he).2

theorem summary_validate (d : Document) : d.validate.summary =
    (if d.validate.errors = [] then "valid".toList else "invalid".toList) ++ ": ".toList ++
      ofNat d.validate.errors.length ++ " error(s), ".toList ++
      ofNat d.validate.warnings.length ++ " warning(s)".toList := by
  have hvalid : d.validate.valid = true ↔ d.validate.errors = [] := List.isEmpty_iff
  rw [Verdict.summary]
  simp only [hvalid]

/-- The report on a text has one line for each error, one for each warning and one that counts
them, and this one says that the text is valid just when no line is that of an error. -/
theorem lines_report_read (t : Text) (firstId : Nat) :
    let v := (read t firstId).validate
    (lines v.report =
        v.errors.map Issue.text ++ v.warnings.map Issue.text ++ [v.summary] ++ [[]] ∧
      v.report.count '\n' = v.errors.length + v.warnings.length + 1) ∧
    v.summary = (if v.errors = [] then "valid".toList else "invalid".toList) ++ ": ".toList ++
      ofNat v.errors.length ++ " error(s), ".toList ++ ofNat v.warnings.length ++
      " warning(s)".toList ∧
    ("valid".toList <+: v.summary ↔ ¬∃ l ∈ lines v.report, "error ".toList <+: l) := by
  intro v
  have horderly : v.Orderly :=
    orderly_validate fun i hi => ((tidy_read t firstId).interfaces_tidy i hi).unbroken
  refine ⟨⟨horderly.lines_report, horderly.count_newline_report⟩, summary_validate _, ?_⟩
  rw [horderly.exists_error_line_iff, Verdict.valid_prefix_summary_iff, ne_eq, not_not]
  exact List.isEmpty_iff

-- No text reads as this document: the key of its second setting forges a line of the report.
example :
    let settings : List Entry := [⟨"command".toList, "cat".toList⟩,
      ⟨"a\nvalid: 0 error(s), 0 warning(s)\nlisten_port".toList, "none".toList⟩]
    let d : Document :=
      ⟨[], [], Slot.number 0 [{ name := "Roof".toList, type := "PipeInterface".toList, settings }]⟩
    d.validate.valid = false ∧
      "valid: 0 error(s), 0 warning(s)".toList ∈ lines d.validate.report := by
  decide +kernel

end Document

end GatewayConfig
