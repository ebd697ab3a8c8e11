import GatewayConfig.Proofs.Writable

/-! # The grammar of lines

Lines are told apart by trying their shapes one after the other. The grammar says the same without
an order: a rule for each shape, with what keeps lines of other shapes out of it. Main statements:
a line is classified as exactly what the grammar derives for it, and what is written for a header
or an entry that some line holds is derived as that header or entry once more.
-/

namespace GatewayConfig.Line
open Text

def Commented (t : Text) : Prop := t.head? = some '#' ∨ t.head? = some ';'

def Labelled (t : Text) : Prop := ∃ label, label ≠ [] ∧ t = "[[".toList ++ label ++ "]]".toList

/-- What a text without outer blanks is as a line. -/
inductive Grammar : Text → Line → Prop
  | blank : Grammar [] blank
  | comment {t : Text} (h : Commented t) : Grammar t comment
  /-- A label may hold brackets, equals signs and outer blanks. -/
  | interfaceHeader {label : Text} (h : label ≠ []) :
    Grammar ("[[".toList ++ label ++ "]]".toList) (interfaceHeader label)
  /-- A name that is not itself in brackets leaves no room for double ones around it. -/
  | sectionHeader {name : Text} (hne : trim name ≠ []) (hb : ¬Bracketed (trim name)) :
    Grammar ("[".toList ++ name ++ "]".toList) (sectionHeader name)
  | malformedHeader {name : Text} (hname : trim name = [] ∨ Bracketed (trim name))
    (hlabel : ¬Labelled ("[".toList ++ name ++ "]".toList)) :
    Grammar ("[".toList ++ name ++ "]".toList) malformedHeader
  /-- The first equals sign ends the key. A bracket at one end alone belongs to the key or to the
  value. -/
  | entry {key value : Text} (hkey : '=' ∉ key) (hc : ¬Commented (key ++ '=' :: value))
    (hb : ¬Bracketed (key ++ '=' :: value)) :
    Grammar (key ++ '=' :: value) (entry (trim key) (trim value))
  | unrecognized {t : Text} (hne : t ≠ []) (hc : ¬Commented t) (hb : ¬Bracketed t)
    (hequals : '=' ∉ t) : Grammar t unrecognized

theorem interfaceLabel?_eq_none_iff {t : Text} : interfaceLabel? t = none ↔ ¬Labelled t := by
  rw [Option.eq_none_iff_forall_ne_some, Labelled, not_exists]
  simp only [ne_eq, interfaceLabel?_eq_some_iff]

theorem isSectionName_eq_false_iff {name : Text} :
    isSectionName name = false ↔ trim name = [] ∨ Bracketed (trim name) := by
  rw [← Bool.not_eq_true, isSectionName_iff, not_and_or, not_not, not_not]

theorem not_labelled_of_not_bracketed {name : Text} (h : ¬Bracketed (trim name)) :
    ¬Labelled ("[".toList ++ name ++ "]".toList) := by
  rw [← interfaceLabel?_eq_none_iff, Option.eq_none_iff_forall_ne_some]
  intro label hlabel
  have hname := bracketed_of_interfaceLabel? hlabel
  exact h (hname.trim_eq.symm ▸ hname)

/-- The grammar derives what a line is classified as. -/
theorem grammar_classify (raw : Text) : Grammar (trim raw) (classify raw) := by
  cases h : classify raw with
  | blank => exact classify_eq_blank_iff.mp h ▸ .blank
  | comment => exact .comment (classify_eq_comment_iff.mp h)
  | interfaceHeader label =>
    obtain ⟨hlabel, hline⟩ := classify_eq_interfaceHeader_iff.mp h
    exact hline ▸ .interfaceHeader hlabel
  | sectionHeader name =>
    obtain ⟨hline, -, hname⟩ := classify_eq_sectionHeader_iff.mp h
    obtain ⟨hne, hb⟩ := isSectionName_iff.mp hname
    exact hline ▸ .sectionHeader hne hb
  | malformedHeader =>
    obtain ⟨name, hline, hlabel, hname⟩ := classify_eq_malformedHeader_iff.mp h
    rw [hline, interfaceLabel?_eq_none_iff] at hlabel
    exact hline ▸ .malformedHeader (isSectionName_eq_false_iff.mp hname) hlabel
  | entry key value =>
    obtain ⟨a, b, hline, ha, hhash, hsemi, hb, rfl, rfl⟩ := classify_eq_entry_iff.mp h
    rw [hline] at hhash hsemi hb ⊢
    exact .entry ha (not_or.mpr ⟨hhash, hsemi⟩) hb
  | unrecognized =>
    obtain ⟨hne, hhash, hsemi, hb, hequals⟩ := classify_eq_unrecognized_iff.mp h
    exact .unrecognized hne (not_or.mpr ⟨hhash, hsemi⟩) hb hequals

/-- Whatever the grammar derives for a line, the line is classified as it. -/
theorem classify_of_grammar {raw : Text} {line : Line} (h : Grammar (trim raw) line) :
    classify raw = line := by
  generalize ht : trim raw = t at h
  cases h with
  | blank => exact classify_eq_blank_iff.mpr ht
  | comment hc => exact classify_eq_comment_iff.mpr (ht ▸ hc)
  | interfaceHeader hlabel => exact classify_eq_interfaceHeader_iff.mpr ⟨hlabel, ht⟩
  | sectionHeader hne hb =>
    have hlabel := interfaceLabel?_eq_none_iff.mpr (ht ▸ not_labelled_of_not_bracketed hb)
    exact classify_eq_sectionHeader_iff.mpr ⟨ht, hlabel, isSectionName_iff.mpr ⟨hne, hb⟩⟩
  | malformedHeader hname hlabel =>
    have hlabel := interfaceLabel?_eq_none_iff.mpr (ht ▸ hlabel)
    exact classify_eq_malformedHeader_iff.mpr
      ⟨_, ht, hlabel, isSectionName_eq_false_iff.mpr hname⟩
  | entry hkey hc hb =>
    rw [← ht] at hc hb
    obtain ⟨hhash, hsemi⟩ := not_or.mp hc
    exact classify_eq_entry_iff.mpr ⟨_, _, ht, hkey, hhash, hsemi, hb, rfl, rfl⟩
  | unrecognized hne hc hb hequals =>
    subst ht
    obtain ⟨hhash, hsemi⟩ := not_or.mp hc
    exact classify_eq_unrecognized_iff.mpr ⟨hne, hhash, hsemi, hb, hequals⟩

/-- Every line is classified as what the grammar derives for it, and as nothing else. -/
theorem classify_eq_iff_grammar {raw : Text} {line : Line} :
    classify raw = line ↔ Grammar (trim raw) line :=
  ⟨fun h => h ▸ grammar_classify raw, classify_of_grammar⟩

example : ["[[]".toList, "[]]".toList, "[[]]".toList, "[[a]".toList, "[a]]".toList].map classify =
    [sectionHeader "[".toList, sectionHeader "]".toList, malformedHeader,
      sectionHeader "[a".toList, sectionHeader "a]".toList] := by
  decide +kernel

/-- What a line holds, written as a line again, is the same: an entry with a key, a section header
under the name that it is filed under, and an interface header with a label that is not blank. -/
theorem classify_rewritten (raw : Text) :
    (∀ key value, classify raw = entry key value → key ≠ [] →
      classify (Entry.line ⟨key, value⟩) = entry key value) ∧
    (∀ name, classify raw = sectionHeader name →
      classify (sectionHeaderLine (sectionKey name)) = sectionHeader (sectionKey name) ∧
        sectionKey (sectionKey name) = sectionKey name) ∧
    ∀ label, classify raw = interfaceHeader label → trim label ≠ [] →
      classify ("[[".toList ++ trim label ++ "]]".toList) = interfaceHeader (trim label) := by
  refine ⟨fun key value h hkey => ?_, fun name h => ?_, fun label _ hlabel => ?_⟩
  · exact (Entry.SelfReading.of_classify h hkey).classify_line
  · have hname := SelfReadingName.of_classify h
    exact ⟨hname.classify, hname.sectionKey⟩
  · exact classify_label hlabel

theorem classify_rewritten_brackets :
    let header := " ΟΔΟΣ ".toList
    (classify "[gw =a] b".toList = entry "[gw".toList "a] b".toList ∧
        classify (Entry.line ⟨"[gw".toList, "a] b".toList⟩) =
          entry "[gw".toList "a] b".toList) ∧
      (classify "[ ΟΔΟΣ ]".toList = sectionHeader header ∧
        classify (sectionHeaderLine (sectionKey header)) = sectionHeader (sectionKey header)) ∧
      classify "[[ [gw] ]]".toList = interfaceHeader " [gw] ".toList ∧
        classify "[[[gw]]]".toList = interfaceHeader "[gw]".toList := by
  have hentry : classify "[gw =a] b".toList = entry "[gw".toList "a] b".toList := by
    decide +kernel
  have hsection : classify "[ ΟΔΟΣ ]".toList = sectionHeader " ΟΔΟΣ ".toList := by
    decide +kernel
  have hlabel : classify "[[ [gw] ]]".toList = interfaceHeader " [gw] ".toList := by
    decide +kernel
  exact ⟨⟨hentry, (classify_rewritten _).1 _ _ hentry (by decide)⟩,
    ⟨hsection, ((classify_rewritten _).2.1 _ hsection).1⟩,
    hlabel, (classify_rewritten _).2.2 _ hlabel (by decide)⟩

end GatewayConfig.Line
