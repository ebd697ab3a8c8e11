import GatewayConfig.Proofs.Document.Beside

/-! # A block on its own

An interface's texts are written as they are, so that a line break in one of them can open
sections and interfaces of its own. A block stands alone if, read under the header of the
interfaces' section, it is one interface and nothing else. It does so if every text keeps to its
line and no setting looks like a header.
-/

namespace GatewayConfig
open Text

namespace Interface

def blockLines (i : Interface) (position : Nat) : List Text := (i.block position).flatMap lines

def aloneText (i : Interface) (position : Nat) : Text :=
  join "\n".toList (sectionHeaderLine interfacesSection :: i.block position)

/-- The block of the interface at a position is one interface and nothing else. -/
structure StandsAlone (i : Interface) (position : Nat) : Prop where
  one : (readAll (i.aloneText position)).length = 1
  no_entries : ∀ name, (Document.read (i.aloneText position) 0).entries name = []

open Reading

theorem standsAlone_iff {i : Interface} {position : Nat} :
    i.StandsAlone position ↔
      (underHeader.through (i.blockLines position)).interfaces.length = 1 ∧
        ∀ name, (underHeader.through (i.blockLines position)).document.entries name = [] := by
  have hheader : lines (sectionHeaderLine interfacesSection) =
      [sectionHeaderLine interfacesSection] := by
    decide
  have htext : ofText (i.aloneText position) =
      underHeader.through (i.blockLines position) := by
    rw [ofText_eq_through, aloneText, lines_join_flatMap (by simp), List.flatMap_cons, hheader,
      through_append, underHeader, blockLines]
  rw [← htext]
  constructor
  · rintro ⟨hone, hnone⟩
    exact ⟨hone, fun name => by rw [← Document.entries_read _ 0, hnone]⟩
  · rintro ⟨hone, hnone⟩
    exact ⟨hone, fun name => by rw [Document.entries_read, hnone]⟩

/-- A name that keeps to its line makes up the label of the header. -/
theorem through_blockLines (r : Reading) {i : Interface} (hname : '\n' ∉ i.name) (position : Nat) :
    r.through (i.blockLines position) =
      (r.step (.interfaceHeader (i.title position))).through
        ((Entries.lines i.blockEntries).flatMap lines) := by
  have htitle : i.title position ≠ [] := by
    rw [title_eq]
    split
    next => exact countedName_ne_nil position
    next hblank =>
      rw [Bool.not_eq_true, blank_eq_false_iff] at hblank
      exact hblank
  have hheader : lines ("[[".toList ++ i.title position ++ "]]".toList) =
      ["[[".toList ++ i.title position ++ "]]".toList] :=
    lines_of_not_mem (by simp [newline_not_mem_title hname position])
  rw [blockLines, block_eq, List.flatMap_cons, hheader, List.singleton_append, through_cons,
    Line.classify_label htitle]

/-- A block whose name keeps to its line is read behind others as it is alone. -/
theorem beside_blockLines {base : Reading} (hplace : base.place.allowsInterface = true)
    {i : Interface} (hname : '\n' ∉ i.name) (position : Nat) :
    Beside base (underHeader.through (i.blockLines position))
      (base.through (i.blockLines position)) := by
  rw [through_blockLines _ hname, through_blockLines _ hname]
  exact (beside_interfaceHeader hplace _).through _

end Interface

/-- The line of an entry is in brackets only if the key opens one and the value closes one. -/
theorem Entry.brackets_of_line {e : Entry} (hkey : blank e.key = false)
    (h : Bracketed (trim e.line)) :
    (trim e.key).head? = some '[' ∧ (trim e.value).getLast? = some ']' := by
  obtain ⟨hopen, hclose⟩ := h
  rw [line, trim_trimEnd, head?_trim_eq, List.append_assoc, List.find?_append,
    ← head?_trim_eq] at hopen
  rw [line, trim_trimEnd, getLast?_trim_eq, List.reverse_append, List.find?_append,
    ← getLast?_trim_eq] at hclose
  constructor
  · obtain ⟨c, t, htrim⟩ := List.exists_cons_of_ne_nil (blank_eq_false_iff.mp hkey)
    rw [htrim] at hopen ⊢
    exact hopen
  · cases hvalue : (trim e.value).getLast? with
    | some c =>
      rw [hvalue] at hclose
      exact hclose
    | none =>
      -- A line without a value ends in the equals sign.
      rw [hvalue, List.reverse_append] at hclose
      simp [isBlank] at hclose

/-- An entry that keeps to its line, which does not look like a header. -/
structure Entry.Plain (e : Entry) : Prop where
  key_no_newline : '\n' ∉ e.key
  value_no_newline : '\n' ∉ e.value
  not_bracketed : ¬((trim e.key).head? = some '[' ∧ (trim e.value).getLast? = some ']')

instance (e : Entry) : Decidable e.Plain :=
  decidable_of_iff
    ('\n' ∉ e.key ∧ '\n' ∉ e.value ∧
      ¬((trim e.key).head? = some '[' ∧ (trim e.value).getLast? = some ']'))
    ⟨fun ⟨hkey, hvalue, hbrackets⟩ => ⟨hkey, hvalue, hbrackets⟩,
      fun h => ⟨h.key_no_newline, h.value_no_newline, h.not_bracketed⟩⟩

/-- An interface with such settings only, whose name and type keep to their lines, too. -/
structure Interface.Plain (i : Interface) : Prop where
  name_no_newline : '\n' ∉ i.name
  type_no_newline : '\n' ∉ i.type
  settings_plain : ∀ e ∈ i.settings, e.Plain

theorem Interface.Plain.unbroken {i : Interface} (h : i.Plain) : i.Unbroken where
  name_no_newline := h.name_no_newline
  type_no_newline := h.type_no_newline
  settings_no_newline := fun e he =>
    ⟨(h.settings_plain e he).key_no_newline, (h.settings_plain e he).value_no_newline⟩

theorem Interface.Plain.blockEntries_plain {i : Interface} (h : i.Plain) :
    ∀ e ∈ i.blockEntries, e.Plain := by
  have hoisted {key value : Text} (hkey : key ∈ hoistedKeys) (hvalue : '\n' ∉ value) :
      Entry.Plain ⟨key, value⟩ := by
    have hkeys : ∀ key ∈ hoistedKeys, '\n' ∉ key ∧ (trim key).head? ≠ some '[' := by decide
    exact ⟨(hkeys key hkey).1, hvalue, fun hbrackets => (hkeys key hkey).2 hbrackets.1⟩
  intro e he
  rcases mem_blockEntries he with rfl | rfl | he
  · exact hoisted List.mem_cons_self h.type_no_newline
  · exact hoisted (by cases i.enableKey <;> decide) (by cases i.enabled <;> decide)
  · exact h.settings_plain e he

namespace Reading

/-- A line that is not bracketed stays within the interface that is open. -/
theorem step_of_not_bracketed {r : Reading} (hplace : r.place = .inInterface) {l : Text}
    (h : ¬Bracketed (trim l)) :
    (r.step (Line.classify l)).place = .inInterface ∧
      (r.step (Line.classify l)).document = r.document ∧
      (r.step (Line.classify l)).interfaces.length = r.interfaces.length := by
  rcases Line.classify_of_not_bracketed h with hline | ⟨key, value, hline⟩
  · rcases hline with hline | hline | hline <;> rw [hline] <;> exact ⟨hplace, rfl, rfl⟩
  · have henter : r.enter key value =
        { r with interfaces := Interface.updateLast (·.enter key value) r.interfaces } := by
      simp [enter, hplace]
    rw [hline, step]
    split
    next => exact ⟨hplace, rfl, rfl⟩
    next =>
      rw [henter]
      exact ⟨hplace, rfl, Interface.length_updateLast ..⟩

theorem through_not_bracketed {r : Reading} (hplace : r.place = .inInterface) {ls : List Text}
    (h : ∀ l ∈ ls, ¬Bracketed (trim l)) :
    (r.through ls).document = r.document ∧
      (r.through ls).interfaces.length = r.interfaces.length := by
  induction ls generalizing r with
  | nil => exact ⟨rfl, rfl⟩
  | cons l ls ih =>
    obtain ⟨hl, hls⟩ := List.forall_mem_cons.mp h
    obtain ⟨hplace', hdocument, hlength⟩ := step_of_not_bracketed hplace hl
    rw [through_cons, ← hdocument, ← hlength]
    exact ih hplace' hls

end Reading

namespace Interface
open Reading

/-- A plain interface stands alone at every position. -/
theorem Plain.standsAlone {i : Interface} (h : i.Plain) (position : Nat) :
    i.StandsAlone position := by
  have hplain := h.blockEntries_plain
  have hlines : (Entries.lines i.blockEntries).flatMap lines = Entries.lines i.blockEntries :=
    flatMap_lines h.unbroken.entries_no_newline
  have hbrackets : ∀ l ∈ Entries.lines i.blockEntries, ¬Bracketed (trim l) := by
    intro l hl
    obtain ⟨e, he, hkey, rfl⟩ := Entries.mem_lines.mp hl
    exact fun hline => (hplain e he).not_bracketed (e.brackets_of_line hkey hline)
  have hopen : underHeader.step (.interfaceHeader (i.title position)) =
      ⟨.inInterface, underHeader.document, [Interface.new (trim (i.title position)) []]⟩ := by
    rw [underHeader_eq]
    rfl
  obtain ⟨hdocument, hlength⟩ := through_not_bracketed
    (r := underHeader.step (.interfaceHeader (i.title position))) (by rw [hopen]) hbrackets
  rw [standsAlone_iff, through_blockLines underHeader h.name_no_newline, hlines, hdocument, hlength,
    hopen]
  exact ⟨rfl, entries_underHeader⟩

end Interface

end GatewayConfig
