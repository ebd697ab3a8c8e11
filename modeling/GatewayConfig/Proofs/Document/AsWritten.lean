import GatewayConfig.Proofs.Document.Writable

/-! # Documents as they are written

Entries with blank keys are not written, blanks that end a line are cut, and names are trimmed. A
document and the one that is left of it have the same text, so it is enough that what is left is
legible for the text to come back as it was. What is left after an edit is what the edit makes of
what was left before.
-/

namespace GatewayConfig
open Text

def Entry.asWritten (e : Entry) : Entry := { e with value := trimEnd e.value }

def Entries.asWritten (entries : List Entry) : List Entry :=
  (entries.filter (!blank ·.key)).map Entry.asWritten

/-- The interface as its block shows it, but for the name that a blank one gives way to. -/
def Interface.asWritten (i : Interface) : Interface :=
  { i with
    name := trim i.name
    type := trimEnd i.type
    settings := Entries.asWritten i.settings }

namespace Document

def asWritten (d : Document) : Document :=
  { d with
    sections := d.sections.map fun s => { s with entries := Entries.asWritten s.entries }
    slots := d.slots.map fun s => { s with interface := s.interface.asWritten } }

/-- Sections with entries are written with some. For the reserved sections this is of no account,
as they are written without entries as well. -/
def NoneIdle (d : Document) : Prop :=
  ∀ name, name ∉ reservedSections → Entries.asWritten (d.entries name) = [] → d.entries name = []

end Document

theorem Entry.line_asWritten (e : Entry) : e.asWritten.line = e.line :=
  trimEnd_append_trimEnd ..

namespace Entries

theorem asWritten_cons (e : Entry) (rest : List Entry) :
    asWritten (e :: rest) =
      if blank e.key then asWritten rest else e.asWritten :: asWritten rest := by
  rw [asWritten, List.filter_cons]
  cases blank e.key <;> rfl

theorem lines_cons (e : Entry) (rest : List Entry) :
    lines (e :: rest) = if blank e.key then lines rest else e.line :: lines rest := by
  rw [lines, List.filter_cons]
  cases blank e.key <;> rfl

theorem lines_asWritten (entries : List Entry) : lines (asWritten entries) = lines entries := by
  induction entries with
  | nil => rfl
  | cons e rest ih =>
    rw [asWritten_cons, lines_cons]
    split
    next => exact ih
    next hkey =>
      have hkey' : ¬blank e.asWritten.key = true := hkey
      rw [lines_cons, if_neg hkey', e.line_asWritten, ih]

/-- A key that is not blank is set in what is written. -/
theorem asWritten_set (entries : List Entry) {key : Text} (hkey : blank key = false)
    (value : Text) :
    asWritten (set entries key value) = set (asWritten entries) key (trimEnd value) := by
  induction entries with
  | nil => simp [set, asWritten, Entry.asWritten, hkey]
  | cons e rest ih =>
    rw [set]
    split
    next he =>
      have hblank : blank e.key = false := by
        rw [blank_eq_of_keyForm_eq (Entry.answersTo_iff.mp he), hkey]
      have he' : e.asWritten.answersTo key = true := he
      rw [asWritten_cons, asWritten_cons, hblank, if_neg Bool.false_ne_true,
        if_neg Bool.false_ne_true, set, if_pos he']
      rfl
    next he =>
      have he' : ¬e.asWritten.answersTo key = true := he
      rw [asWritten_cons, asWritten_cons, ih]
      split
      next => rfl
      next => rw [set, if_neg he']

theorem asWritten_set_of_blank (entries : List Entry) {key : Text} (hkey : blank key = true)
    (value : Text) : asWritten (set entries key value) = asWritten entries := by
  induction entries with
  | nil => simp [set, asWritten, hkey]
  | cons e rest ih =>
    rw [set]
    split
    next he =>
      have hblank : blank e.key = true := by
        rw [blank_eq_of_keyForm_eq (Entry.answersTo_iff.mp he), hkey]
      simp [asWritten_cons, hblank]
    next => rw [asWritten_cons, asWritten_cons, ih]

theorem set_ne_nil (entries : List Entry) (key value : Text) : set entries key value ≠ [] := by
  cases entries with
  | nil => simp [set]
  | cons e rest =>
    rw [set]
    split <;> simp

end Entries

theorem SettingKey.not_blank_of_setting {key : Text} (h : ofText key = .setting) :
    Text.blank key = false := by
  rw [blank_eq_false_iff]
  rintro hkey
  simp [ofText, keyForm, hkey, lowerAscii] at h

namespace Interface

theorem block_asWritten (i : Interface) (position : Nat) :
    i.asWritten.block position = i.block position := by
  have htitle : i.asWritten.title position = i.title position := by
    rw [title, title, asWritten, trim_trim]
  have htype : blank i.asWritten.type = blank i.type := by
    rw [blank, blank, asWritten, trim_trimEnd]
  have hline : Entry.line ⟨typeKey, i.asWritten.type⟩ = Entry.line ⟨typeKey, i.type⟩ :=
    Entry.line_asWritten ⟨typeKey, i.type⟩
  have hsettings : Entries.lines i.asWritten.settings = Entries.lines i.settings :=
    Entries.lines_asWritten i.settings
  rw [block, block, htitle, htype, hline, hsettings]
  rfl

theorem asWritten_set (i : Interface) (key value : Text) :
    (i.set key value).asWritten = i.asWritten.set key (trimEnd value) := by
  rw [set, set]
  cases hkind : SettingKey.ofText key with
  | blank => rfl
  | type => simp [asWritten, trim_trimEnd]
  | enable spelling => simp [asWritten, Flag.read]
  | setting =>
    have hkey : Text.blank (trim key) = false := by
      rw [Text.blank, trim_trim]
      exact SettingKey.not_blank_of_setting hkind
    have hsettings := Entries.asWritten_set i.settings hkey value
    simp only [asWritten, hsettings]

end Interface

namespace Document

@[simp] theorem entries_asWritten (d : Document) (name : Text) :
    d.asWritten.entries name = Entries.asWritten (d.entries name) := by
  have hname : (fun s : Section => s.name == name) ∘
      (fun s : Section => { s with entries := Entries.asWritten s.entries }) =
        fun s => s.name == name := rfl
  rw [entries, entries, Sections.find?, Sections.find?, asWritten, List.find?_map, hname]
  cases d.sections.find? (·.name == name) with
  | none => rfl
  | some s => rfl

@[simp] theorem interfaces_asWritten (d : Document) :
    d.asWritten.interfaces = d.interfaces.map Interface.asWritten := by
  simp [interfaces, asWritten]

theorem sectionBlock_asWritten (d : Document) (name : Text) :
    d.asWritten.sectionBlock name = d.sectionBlock name := by
  rw [sectionBlock, sectionBlock, entries_asWritten, Entries.lines_asWritten]

/-- What is left of a document has the document's text. -/
theorem write_asWritten {d : Document} (h : d.NoneIdle) : d.asWritten.write = d.write := by
  have hshows (name : Text) : d.asWritten.shows name = d.shows name := by
    rw [shows, shows, entries_asWritten]
    by_cases hreserved : name ∈ reservedSections
    · simp [hreserved]
    · congr 2
      rw [Bool.eq_iff_iff, List.isEmpty_iff, List.isEmpty_iff]
      refine ⟨h name hreserved, fun hnil => ?_⟩
      rw [hnil]
      rfl
  have hinterfaces : d.asWritten.interfaces.mapIdx (fun k i => i.block k) =
      d.interfaces.mapIdx fun k i => i.block k := by
    rw [interfaces_asWritten]
    apply List.ext_getElem
    · simp
    · intro k hk hk'
      simp [Interface.block_asWritten]
  have hblocksOf : d.asWritten.blocksOf = d.blocksOf := by
    funext name
    rw [blocksOf_eq, blocksOf_eq, hshows, shownBlocks, shownBlocks, sectionBlock_asWritten,
      hinterfaces]
  rw [write, write, blocks, blocks, hblocksOf]
  rfl

/-- A document is written as before after its text is read, if what is left of it is legible. -/
theorem write_read_write_of_legible {d : Document} (h : d.asWritten.Legible) (hidle : d.NoneIdle)
    (firstId : Nat) : (read d.write firstId).write = d.write := by
  have hwrite := h.write_settles firstId
  rw [write_asWritten hidle] at hwrite
  exact hwrite

theorem asWritten_editSection (d : Document) (name : Text)
    (edit edit' : List Entry → List Entry)
    (h : ∀ entries, Entries.asWritten (edit entries) = edit' (Entries.asWritten entries)) :
    (d.editSection name edit).asWritten = d.asWritten.editSection name edit' := by
  have hupdate (sections : List Section) :
      (Sections.update name edit sections).map
          (fun s => { s with entries := Entries.asWritten s.entries }) =
        Sections.update name edit'
          (sections.map fun s => { s with entries := Entries.asWritten s.entries }) := by
    induction sections with
    | nil => exact congrArg (fun entries => [Section.mk name entries]) (h [])
    | cons s rest ih =>
      rw [Sections.update, List.map_cons, Sections.update]
      split
      next => simp [h]
      next => rw [List.map_cons, ih]
  rw [editSection, asWritten, hupdate]
  rfl

theorem asWritten_append (d : Document) (s : Slot) :
    (d.append s).asWritten = d.asWritten.append { s with interface := s.interface.asWritten } := by
  simp [append, asWritten]

theorem asWritten_updateInterface (d : Document) (id : InterfaceId)
    (edit edit' : Interface → Interface) (h : ∀ i, (edit i).asWritten = edit' i.asWritten) :
    (d.updateInterface id edit).asWritten = d.asWritten.updateInterface id edit' := by
  have hgo (slots : List Slot) :
      (updateInterface.go id edit slots).map
          (fun s => { s with interface := s.interface.asWritten }) =
        updateInterface.go id edit'
          (slots.map fun s => { s with interface := s.interface.asWritten }) := by
    induction slots with
    | nil => rfl
    | cons s rest ih =>
      rw [updateInterface.go, List.map_cons, updateInterface.go]
      split
      next => simp [h]
      next => rw [List.map_cons, ih]
  rw [updateInterface, asWritten, hgo]
  rfl

end Document

end GatewayConfig
