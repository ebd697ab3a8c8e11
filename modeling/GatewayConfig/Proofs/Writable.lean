import GatewayConfig.Document.Format
import GatewayConfig.Proofs.Line
import GatewayConfig.Proofs.Text.Lines
import GatewayConfig.Proofs.Text.Lowercase

/-! # What a line can carry

A section name or an entry is self-reading if the line written for it, taken as one line, reads
back as just that, and writable if no newline cuts that line. The conditions are about single
characters at the ends and characters that may not occur. Whatever a line of some text reads as
meets them.
-/

namespace GatewayConfig
open Text

/-- A name that stands for itself between the brackets of a section header. -/
structure WritableName (name : Text) : Prop where
  ne_nil : name ≠ []
  trimmed : trim name = name
  lowercase : lowercase name = name
  no_newline : '\n' ∉ name
  not_bracketed : ¬Bracketed name

/-- An entry that its line gives back. -/
structure Entry.Writable (e : Entry) : Prop where
  key_ne_nil : e.key ≠ []
  key_trimmed : trim e.key = e.key
  key_no_newline : '\n' ∉ e.key
  key_no_equals : '=' ∉ e.key
  key_no_hash : e.key.head? ≠ some '#'
  key_no_semicolon : e.key.head? ≠ some ';'
  value_trimmed : trim e.value = e.value
  value_no_newline : '\n' ∉ e.value
  not_bracketed : ¬(e.key.head? = some '[' ∧ e.value.getLast? = some ']')

instance (name : Text) : Decidable (WritableName name) :=
  decidable_of_iff
    (name ≠ [] ∧ trim name = name ∧ Text.lowercase name = name ∧ '\n' ∉ name ∧ ¬Bracketed name)
    ⟨fun ⟨hne, htrim, hlower, hnewline, hbracketed⟩ => ⟨hne, htrim, hlower, hnewline, hbracketed⟩,
      fun h => ⟨h.ne_nil, h.trimmed, h.lowercase, h.no_newline, h.not_bracketed⟩⟩

instance (e : Entry) : Decidable e.Writable :=
  decidable_of_iff
    (e.key ≠ [] ∧ trim e.key = e.key ∧ '\n' ∉ e.key ∧ '=' ∉ e.key ∧ e.key.head? ≠ some '#' ∧
      e.key.head? ≠ some ';' ∧ trim e.value = e.value ∧ '\n' ∉ e.value ∧
      ¬(e.key.head? = some '[' ∧ e.value.getLast? = some ']'))
    ⟨fun ⟨hne, htrim, hnewline, hequals, hhash, hsemi, hvalue, hvalue', hbracketed⟩ =>
        ⟨hne, htrim, hnewline, hequals, hhash, hsemi, hvalue, hvalue', hbracketed⟩,
      fun h => ⟨h.key_ne_nil, h.key_trimmed, h.key_no_newline, h.key_no_equals, h.key_no_hash,
        h.key_no_semicolon, h.value_trimmed, h.value_no_newline, h.not_bracketed⟩⟩

/-- A name that the line of its section header gives back, newlines aside. -/
structure SelfReadingName (name : Text) : Prop where
  ne_nil : name ≠ []
  trimmed : trim name = name
  lowercase : lowercase name = name
  not_bracketed : ¬Bracketed name

/-- An entry that its line gives back, newlines aside. -/
structure Entry.SelfReading (e : Entry) : Prop where
  key_ne_nil : e.key ≠ []
  key_trimmed : trim e.key = e.key
  key_no_equals : '=' ∉ e.key
  key_no_hash : e.key.head? ≠ some '#'
  key_no_semicolon : e.key.head? ≠ some ';'
  value_trimmed : trim e.value = e.value
  not_bracketed : ¬(e.key.head? = some '[' ∧ e.value.getLast? = some ']')

namespace SelfReadingName

theorem trim_header (name : Text) : trim (sectionHeaderLine name) = sectionHeaderLine name :=
  Bracketed.trim_eq (bracketed_iff.mpr ⟨name, rfl⟩)

theorem classify {name : Text} (h : SelfReadingName name) :
    Line.classify (sectionHeaderLine name) = .sectionHeader name := by
  rw [Line.classify_eq_sectionHeader_iff, trim_header]
  refine ⟨rfl, ?_, ?_⟩
  · rw [Option.eq_none_iff_forall_ne_some]
    exact fun label hlabel => h.not_bracketed (Line.bracketed_of_interfaceLabel? hlabel)
  · rw [Line.isSectionName_iff, h.trimmed]
    exact ⟨h.ne_nil, h.not_bracketed⟩

theorem sectionKey {name : Text} (h : SelfReadingName name) : sectionKey name = name := by
  rw [GatewayConfig.sectionKey, h.trimmed, h.lowercase]

/-- The key that a section header is filed under is self-reading. -/
theorem of_classify {raw name : Text} (h : Line.classify raw = .sectionHeader name) :
    SelfReadingName (GatewayConfig.sectionKey name) := by
  obtain ⟨-, -, hname⟩ := Line.classify_eq_sectionHeader_iff.mp h
  obtain ⟨hne, hbracketed⟩ := Line.isSectionName_iff.mp hname
  constructor
  · exact fun hnil => hne (lowercase_eq_nil_iff.mp hnil)
  · refine trim_eq_self_iff.mpr ⟨fun c hc => ?_, fun c hc => ?_⟩
    · rcases head?_lowercase hc with hlowered | hc
      · exact hlowered.not_blank
      · exact head?_trim hc
    · rcases getLast?_lowercaseAfter hc with hlowered | hc
      · exact hlowered.not_blank
      · exact getLast?_trim hc
  · exact lowercase_lowercase _
  · rintro ⟨hopen, hclose⟩
    apply hbracketed
    constructor
    · exact (head?_lowercase hopen).resolve_left fun hlowered => hlowered.ne_open rfl
    · exact (getLast?_lowercaseAfter hclose).resolve_left fun hlowered => hlowered.ne_close rfl

end SelfReadingName

namespace WritableName

theorem selfReading {name : Text} (h : WritableName name) : SelfReadingName name :=
  ⟨h.ne_nil, h.trimmed, h.lowercase, h.not_bracketed⟩

theorem classify {name : Text} (h : WritableName name) :
    Line.classify (sectionHeaderLine name) = .sectionHeader name :=
  h.selfReading.classify

theorem sectionKey {name : Text} (h : WritableName name) : sectionKey name = name :=
  h.selfReading.sectionKey

theorem header_no_newline {name : Text} (h : WritableName name) :
    '\n' ∉ sectionHeaderLine name := by
  simp [sectionHeaderLine, h.no_newline]

theorem of_classify {raw name : Text} (hraw : '\n' ∉ raw)
    (h : Line.classify raw = .sectionHeader name) :
    WritableName (GatewayConfig.sectionKey name) := by
  obtain ⟨hline, -, -⟩ := Line.classify_eq_sectionHeader_iff.mp h
  have hnewline : '\n' ∉ GatewayConfig.sectionKey name := by
    intro hmem
    rcases mem_lowercase hmem with hlowered | hmem
    · exact absurd hlowered.not_blank (by decide)
    · apply hraw
      apply mem_of_mem_trim
      rw [hline]
      simp [mem_of_mem_trim hmem]
  have hself := SelfReadingName.of_classify h
  exact ⟨hself.ne_nil, hself.trimmed, hself.lowercase, hnewline, hself.not_bracketed⟩

theorem of_reserved {name : Text} (h : name ∈ reservedSections) : WritableName name := by
  have hall : ∀ name ∈ reservedSections, WritableName name := by
    decide +kernel
  exact hall name h

end WritableName

namespace Entry

/-- A line ends in its value, or in the equals sign if there is none. -/
theorem line_eq (e : Entry) :
    e.line = e.key ++ [' '] ++ '=' :: trimEnd (' ' :: e.value) := by
  have hne : trimEnd ('=' :: ' ' :: e.value) ≠ [] := by
    rw [trimEnd_cons_of_not_blank (by decide)]
    simp
  have h := trimEnd_append_of_ne_nil (e.key ++ [' ']) hne
  rw [trimEnd_cons_of_not_blank (by decide)] at h
  rw [← h, line]
  simp

theorem newline_not_mem_line {e : Entry} (hkey : '\n' ∉ e.key) (hvalue : '\n' ∉ e.value) :
    '\n' ∉ e.line := by
  intro hmem
  have hmem := mem_of_mem_trimEnd hmem
  simp [hkey, hvalue] at hmem

namespace SelfReading

theorem head?_line {e : Entry} (h : e.SelfReading) : e.line.head? = e.key.head? := by
  obtain ⟨c, t, hkey⟩ := List.exists_cons_of_ne_nil h.key_ne_nil
  simp [line_eq, hkey]

theorem trim_line {e : Entry} (h : e.SelfReading) : trim e.line = e.line := by
  refine trim_eq_self_iff.mpr ⟨fun c hc => ?_, fun c hc => getLast?_trimEnd hc⟩
  rw [h.head?_line] at hc
  exact (trim_eq_self_iff.mp h.key_trimmed).1 c hc

theorem line_not_bracketed {e : Entry} (h : e.SelfReading) : ¬Bracketed e.line := by
  rintro ⟨hopen, hclose⟩
  rw [h.head?_line] at hopen
  by_cases hvalue : e.value = []
  · have hline : e.line = e.key ++ [' '] ++ ['='] := by
      rw [line_eq, hvalue]
      rfl
    rw [hline, List.getLast?_concat] at hclose
    cases hclose
  · have hend : trimEnd e.value = e.value :=
      trimEnd_eq_self_iff.mpr (trim_eq_self_iff.mp h.value_trimmed).2
    have hline : e.line = e.key ++ [' ', '=', ' '] ++ e.value := by
      rw [line_eq, trimEnd_cons, hend]
      simp [hvalue]
    obtain ⟨c, hc⟩ := List.getLast?_isSome.mpr hvalue |> Option.isSome_iff_exists.mp
    rw [hline, List.getLast?_append, hc] at hclose
    exact h.not_bracketed ⟨hopen, hc.trans hclose⟩

theorem classify_line {e : Entry} (h : e.SelfReading) :
    Line.classify e.line = .entry e.key e.value := by
  rw [Line.classify_eq_entry_iff, h.trim_line]
  refine ⟨e.key ++ [' '], trimEnd (' ' :: e.value), e.line_eq, ?_, ?_, ?_,
    h.line_not_bracketed, ?_, ?_⟩
  · simp [h.key_no_equals]
  · rw [h.head?_line]
    exact h.key_no_hash
  · rw [h.head?_line]
    exact h.key_no_semicolon
  · have := trim_blank_append_blank (s := []) (u := [' ']) e.key (by simp)
      (List.forall_mem_singleton.mpr rfl)
    rw [List.nil_append] at this
    rw [this, h.key_trimmed]
  · have := trim_blank_append_blank (s := [' ']) (u := []) e.value
      (List.forall_mem_singleton.mpr rfl) (by simp)
    rw [List.append_nil, List.singleton_append] at this
    rw [trim_trimEnd, this, h.value_trimmed]

/-- Whatever a line reads as an entry is self-reading, if it has a key at all. -/
theorem of_classify {raw key value : Text} (h : Line.classify raw = .entry key value)
    (hkey : key ≠ []) : SelfReading ⟨key, value⟩ := by
  obtain ⟨a, b, hline, ha, hhash, hsemi, hbracketed, rfl, rfl⟩ := Line.classify_eq_entry_iff.mp h
  have hhead : (trim a).head? = (trim raw).head? := by
    cases a with
    | nil => exact absurd rfl hkey
    | cons c a =>
      have hc : (trim raw).head? = some c := by rw [hline]; rfl
      rw [hc]
      exact head?_trim_of_not_blank rfl (head?_trim hc)
  refine ⟨hkey, trim_trim a, fun hc => ha (mem_of_mem_trim hc), ?_, ?_, trim_trim b, ?_⟩
  · simpa only [hhead] using hhash
  · simpa only [hhead] using hsemi
  · rintro ⟨hopen, hclose⟩
    apply hbracketed
    refine ⟨hhead ▸ hopen, ?_⟩
    cases hlast : b.getLast? with
    | none =>
      rw [List.getLast?_eq_none_iff] at hlast
      simp [hlast] at hclose
    | some c =>
      have hend : (trim raw).getLast? = some c := by
        simp [hline, List.getLast?_append, List.getLast?_cons, hlast]
      have := getLast?_trim_of_not_blank hlast (getLast?_trim hend)
      rw [hend, ← this]
      exact hclose

end SelfReading

namespace Writable

theorem selfReading {e : Entry} (h : e.Writable) : e.SelfReading :=
  ⟨h.key_ne_nil, h.key_trimmed, h.key_no_equals, h.key_no_hash, h.key_no_semicolon,
    h.value_trimmed, h.not_bracketed⟩

theorem classify_line {e : Entry} (h : e.Writable) :
    Line.classify e.line = .entry e.key e.value :=
  h.selfReading.classify_line

theorem line_no_newline {e : Entry} (h : e.Writable) : '\n' ∉ e.line :=
  newline_not_mem_line h.key_no_newline h.value_no_newline

/-- Whatever a line reads as an entry is writable, if it has a key at all. -/
theorem of_classify {raw key value : Text} (hraw : '\n' ∉ raw)
    (h : Line.classify raw = .entry key value) (hkey : key ≠ []) : Writable ⟨key, value⟩ := by
  have hself := SelfReading.of_classify h hkey
  obtain ⟨a, b, hline, -, -, -, -, rfl, rfl⟩ := Line.classify_eq_entry_iff.mp h
  have hmem : ∀ c, c ∈ a ∨ c ∈ b → c ∈ raw := by
    intro c hc
    apply mem_of_mem_trim
    rw [hline]
    rcases hc with hc | hc <;> simp [hc]
  exact {
    key_ne_nil := hself.key_ne_nil
    key_trimmed := hself.key_trimmed
    key_no_newline := fun hc => hraw (hmem _ (.inl (mem_of_mem_trim hc)))
    key_no_equals := hself.key_no_equals
    key_no_hash := hself.key_no_hash
    key_no_semicolon := hself.key_no_semicolon
    value_trimmed := hself.value_trimmed
    value_no_newline := fun hc => hraw (hmem _ (.inr (mem_of_mem_trim hc)))
    not_bracketed := hself.not_bracketed }

end Writable

end Entry

end GatewayConfig
