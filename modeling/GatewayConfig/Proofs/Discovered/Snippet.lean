import GatewayConfig.Discovered
import GatewayConfig.Proofs.Document.Concatenation
import GatewayConfig.Proofs.Document.Layout

/-! # Discovered snippets

A snippet is read as it is if it holds the plain header of the interfaces' section, and otherwise
under a header that is put above it. The reader takes more spellings of that header than the plain
one. Main statements: for which texts the first interface comes back whatever name is brought along,
and what the interface is that a snippet without any of these headers becomes.
-/

namespace GatewayConfig
open Text

theorem Text.contains_iff {piece t : Text} : contains piece t = true ↔ piece <:+: t := by
  induction t with
  | nil => rw [contains, List.isEmpty_iff, List.infix_nil]
  | cons c t ih => rw [contains, Bool.or_eq_true, ih, List.isPrefixOf_iff_prefix, List.infix_cons_iff]

theorem Interface.readAll_trim (t : Text) : readAll (trim t) = readAll t :=
  congrArg Reading.interfaces (Reading.through_lines_trim .start t)

namespace Discovered
open Reading

/-- The interfaces that the lines above a text's first section header would open in the section of
the interfaces. -/
def labelled (t : Text) : List Interface := (underHeader.through (preamble t)).interfaces

/-- Lines put above a text have their effect before the lines of the text. -/
theorem readAll_below (above t : Text) :
    Interface.readAll (above ++ "\n".toList ++ trim t ++ "\n".toList) =
      ((start.through (lines above)).through (lines t)).interfaces := by
  have htext : above ++ "\n".toList ++ trim t ++ "\n".toList =
      above ++ '\n' :: (trim t ++ "\n".toList) := by
    simp
  have hblank : ∀ c ∈ "\n".toList, isBlank c = true := by
    intro c hc
    rw [List.mem_singleton.mp hc]
    rfl
  rw [Interface.readAll, ofText_eq_through, htext, lines_append_newline, through_append,
    through_lines_append_of_blank _ _ hblank, through_lines_trim]

theorem frame_eq (name t : Text) :
    frame name t =
      if contains (sectionHeaderLine interfacesSection) t then t
      else if "[[".toList.isPrefixOf t then
        sectionHeaderLine interfacesSection ++ "\n".toList ++ t ++ "\n".toList
      else
        sectionHeaderLine interfacesSection ++ "\n[[".toList ++ name ++ "]]\n".toList ++ t ++
          "\n".toList :=
  rfl

theorem ofSnippet?_of_blank {t : Text} (h : blank t = true) (fallback : Text) :
    ofSnippet? t fallback = none := by
  rw [ofSnippet?, blank_iff.mp h]
  rfl

section
variable {t : Text} (hblank : blank t = false)
include hblank

theorem ofSnippet?_of_not_blank (fallback : Text) :
    ofSnippet? t fallback = (Interface.readAll (frame fallback (trim t))).head? := by
  rw [blank] at hblank
  simp [ofSnippet?, hblank]

theorem ofSnippet?_of_header
    (hheader : contains (sectionHeaderLine interfacesSection) (trim t) = true) (fallback : Text) :
    ofSnippet? t fallback = (Interface.readAll t).head? := by
  rw [ofSnippet?_of_not_blank hblank, frame_eq, if_pos hheader, Interface.readAll_trim]

variable (hheader : contains (sectionHeaderLine interfacesSection) (trim t) = false)
include hheader

/-- Without it, a snippet that starts like an interface header is read under the section header. -/
theorem ofSnippet?_of_label (hlabel : "[[".toList.isPrefixOf (trim t) = true) (fallback : Text) :
    ofSnippet? t fallback = (labelled t ++ Interface.readAll t).head? := by
  have hlines : start.through (lines (sectionHeaderLine interfacesSection)) = underHeader := rfl
  rw [ofSnippet?_of_not_blank hblank, frame_eq, if_neg (by simp [hheader]), if_pos hlabel,
    readAll_below, hlines, (through_lines _ t).1]
  rfl

/-- Any other snippet is read as the inside of an interface with the name that is brought along,
and only what stands above its first header belongs to that interface. -/
theorem ofSnippet?_bare (hlabel : "[[".toList.isPrefixOf (trim t) = false) {fallback : Text}
    (hne : fallback ≠ []) (hfallback : '\n' ∉ fallback) :
    ofSnippet? t fallback =
      some ((Interface.new (trim fallback) []).setAll (leadingEntries t)) := by
  have habove : sectionHeaderLine interfacesSection ++ "\n[[".toList ++ fallback ++
        "]]\n".toList ++ trim t ++ "\n".toList =
      (sectionHeaderLine interfacesSection ++ '\n' :: ("[[".toList ++ fallback ++ "]]".toList)) ++
        "\n".toList ++ trim t ++ "\n".toList := by
    simp
  have hopen : start.through (lines (sectionHeaderLine interfacesSection ++
      '\n' :: ("[[".toList ++ fallback ++ "]]".toList))) =
        ⟨.inInterface, underHeader.document, [Interface.new (trim fallback) []]⟩ := by
    have hline : lines ("[[".toList ++ fallback ++ "]]".toList) =
        ["[[".toList ++ fallback ++ "]]".toList] :=
      lines_of_not_mem (by simp [hfallback])
    rw [lines_append_newline, through_append, hline, through_cons, Line.classify_label hne]
    rfl
  obtain ⟨more, hmore⟩ := through_inInterface underHeader.document
    (Interface.new (trim fallback) []) (lines t)
  rw [ofSnippet?_of_not_blank hblank, frame_eq, if_neg (by simp [hheader]),
    if_neg (by rw [hlabel]; exact Bool.false_ne_true), habove, readAll_below, hopen, hmore,
    List.head?_cons, leadingEntries]

/-- Of two names an interface has at most one, so that no interface is what comes back for both. -/
theorem ofSnippet?_bare_varies (hlabel : "[[".toList.isPrefixOf (trim t) = false)
    (found : Option Interface) : ∃ fallback, ¬ofSnippet? t fallback = found := by
  by_contra hall
  push Not at hall
  have hsame : ofSnippet? t "a".toList = ofSnippet? t "b".toList := by rw [hall, hall]
  rw [ofSnippet?_bare hblank hheader hlabel (by decide) (by decide),
    ofSnippet?_bare hblank hheader hlabel (by decide) (by decide)] at hsame
  have hname := congrArg Interface.name (Option.some.inj hsame)
  rw [Interface.name_setAll, Interface.name_setAll] at hname
  exact absurd hname (by decide)

end

/-- The first interface of a text comes back under every name that may be brought along exactly if
nothing but the plain header was looked for: the text holds it, or starts like an interface header
and opens no other interface first. -/
theorem interface?_string_eq_head?_iff (t : Text) :
    (∀ fallback, interface? (.string t) fallback = (Interface.readAll t).head?) ↔
      blank t = true ∨ contains (sectionHeaderLine interfacesSection) (trim t) = true ∨
        "[[".toList.isPrefixOf (trim t) = true ∧
          ∀ i, (labelled t).head? = some i → (Interface.readAll t).head? = some i := by
  change (∀ fallback, ofSnippet? t fallback = _) ↔ _
  cases hblank : blank t with
  | true =>
    have hnil : Interface.readAll t = [] := by
      rw [← Interface.readAll_trim, blank_iff.mp hblank]
      rfl
    simp [ofSnippet?_of_blank hblank, hnil]
  | false =>
    cases hheader : contains (sectionHeaderLine interfacesSection) (trim t) with
    | true => simp [ofSnippet?_of_header hblank hheader]
    | false =>
      cases hlabel : "[[".toList.isPrefixOf (trim t) with
      | true =>
        simp only [ofSnippet?_of_label hblank hheader hlabel, List.head?_append]
        cases (labelled t).head? with
        | none => simp
        | some i => simp [eq_comm]
      | false =>
        simp only [Bool.false_eq_true, false_or, false_and, iff_false, not_forall]
        exact ofSnippet?_bare_varies hblank hheader hlabel _

/-- A capital letter or a blank in the header, or a label above it: the text has an interface, and
another one comes back. -/
theorem interface?_string_misses_header :
    let roof := Interface.new "Roof".toList "AutoInterface".toList
    (Interface.readAll "[Interfaces]\n[[Roof]]\ntype = AutoInterface\n".toList = [roof] ∧
      interface? (.string "[Interfaces]\n[[Roof]]\ntype = AutoInterface\n".toList) "Peer".toList =
        some (Interface.new "Peer".toList [])) ∧
    (Interface.readAll "[ interfaces ]\n[[Roof]]\ntype = AutoInterface\n".toList = [roof] ∧
      interface? (.string "[ interfaces ]\n[[Roof]]\ntype = AutoInterface\n".toList)
        "Peer".toList = some (Interface.new "Peer".toList [])) ∧
    Interface.readAll "[[Attic]]\n[Interfaces]\n[[Roof]]\ntype = AutoInterface\n".toList = [roof] ∧
      interface? (.string "[[Attic]]\n[Interfaces]\n[[Roof]]\ntype = AutoInterface\n".toList)
        "Peer".toList = some (Interface.new "Attic".toList []) := by
  decide +kernel

/-- A snippet that declares no interface becomes one with the name that is brought along. The
entries above its first header are set on it in turn, and no later line reaches it. -/
theorem interface?_string_bare {t fallback : Text} (hblank : blank t = false)
    (hheader : ¬"[interfaces]".toList <:+: trim t) (hlabel : ¬"[[".toList <+: trim t)
    (hnamed : blank fallback = false) (hname : trim fallback = fallback)
    (hnewline : '\n' ∉ fallback) :
    ∃ i, interface? (.string t) fallback = some i ∧ i.name = fallback ∧
      i = (Interface.new fallback []).setAll (leadingEntries t) := by
  have hne : fallback ≠ [] := by
    rintro rfl
    cases hnamed
  have hplain : contains (sectionHeaderLine interfacesSection) (trim t) = false := by
    rw [← Bool.not_eq_true, contains_iff]
    exact hheader
  have hopen : "[[".toList.isPrefixOf (trim t) = false := by
    rw [← Bool.not_eq_true, List.isPrefixOf_iff_prefix]
    exact hlabel
  have hfound := ofSnippet?_bare hblank hplain hopen hne hnewline
  rw [hname] at hfound
  exact ⟨_, hfound, Interface.name_setAll _ _, rfl⟩

theorem interface?_string_bare_above_headers :
    let t := ("; found\nTYPE = UDPInterface\n= x\nmode = ap\nEnabled = no\nMode = gw\n" ++
      "[[Attic]]\nmode = full\n[ Interfaces ]\n[[Roof]]\n").toList
    let name := "] ]".toList
    (blank t = false ∧ ¬"[interfaces]".toList <:+: trim t ∧ ¬"[[".toList <+: trim t) ∧
      (blank name = false ∧ trim name = name ∧ '\n' ∉ name) ∧
      interface? (.string t) name = some
        { name, type := "UDPInterface".toList, enabled := false
          settings := [⟨"mode".toList, "gw".toList⟩] } := by
  intro t name
  have ht : blank t = false ∧ ¬"[interfaces]".toList <:+: trim t ∧ ¬"[[".toList <+: trim t := by
    decide +kernel
  have hn : blank name = false ∧ trim name = name ∧ '\n' ∉ name := by decide +kernel
  obtain ⟨i, hfound, -, hi⟩ := interface?_string_bare ht.1 ht.2.1 ht.2.2 hn.1 hn.2.1 hn.2.2
  refine ⟨ht, hn, hfound.trans (congrArg some (hi.trans ?_))⟩
  decide +kernel

end Discovered

end GatewayConfig
