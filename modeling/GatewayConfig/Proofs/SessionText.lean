import GatewayConfig.Proofs.Document.AsWritten
import GatewayConfig.Session

/-! # Texts of editing sessions

A document that was put together from nothing is written as before after its text is read, as long
as no argument of an edit has a character that changes how its line reads. Blanks at the end of a
line, entries with blank keys and blank names do no harm. Blanks in front of a value, capital
letters in the name of a section, line breaks and the marks of headers, comments and entries do.
-/

namespace GatewayConfig
open Text

def SettingKey.Carries (key value : Text) : SettingKey → Prop
  | .blank | .enable _ => True
  | .type => '\n' ∉ trim value
  | .setting => Entry.Writable ⟨trim key, trimEnd value⟩

/-- An edit after which the text of a document still comes back as it was, among those that set a
key or add an interface. -/
def Edit.KeepsText : Edit → Prop
  | .editSection name (.set key value) => WritableName name ∧
    (Entry.Writable ⟨key, trimEnd value⟩ ∨ blank key = true ∧ name ∈ reservedSections)
  | .setGlobal key value => Entry.Writable ⟨key, trimEnd value⟩ ∨ blank key = true
  | .addInterface name type =>
    '\n' ∉ trim name ∧ trim type = trimEnd type ∧ '\n' ∉ trim type
  | .editInterface _ (.set key value) => (SettingKey.ofText key).Carries key value
  | _ => False

instance (key value : Text) : DecidablePred (SettingKey.Carries key value)
  | .blank | .enable _ => .isTrue trivial
  | .type => inferInstanceAs (Decidable ('\n' ∉ trim value))
  | .setting => inferInstanceAs (Decidable (Entry.Writable ⟨trim key, trimEnd value⟩))

instance : DecidablePred Edit.KeepsText
  | .editSection name (.set key value) => inferInstanceAs (Decidable (WritableName name ∧
      (Entry.Writable ⟨key, trimEnd value⟩ ∨ blank key = true ∧ name ∈ reservedSections)))
  | .setGlobal key value =>
    inferInstanceAs (Decidable (Entry.Writable ⟨key, trimEnd value⟩ ∨ blank key = true))
  | .addInterface name type => inferInstanceAs (Decidable
      ('\n' ∉ trim name ∧ trim type = trimEnd type ∧ '\n' ∉ trim type))
  | .editInterface _ (.set key value) =>
    inferInstanceAs (Decidable ((SettingKey.ofText key).Carries key value))
  | .addSection _ | .addDiscovered _ _ | .removeInterface _ | .moveInterface _ _ => .isFalse id
  | .editSection _ (.erase _) | .editSection _ (.setList _ _) | .editSection _ (.append _ _)
  | .editSection _ (.replace _) => .isFalse id
  | .editInterface _ (.erase _) | .editInterface _ (.enable _) | .editInterface _ (.rename _)
  | .editInterface _ (.retype _) | .editInterface _ (.respell _)
  | .editInterface _ (.append _ _) => .isFalse id

theorem Interface.Tidy.set_of_carries {i : Interface} (h : i.Tidy) {key value : Text}
    (hcarries : (SettingKey.ofText key).Carries key value) : (i.set key (trimEnd value)).Tidy := by
  cases hkind : SettingKey.ofText key with
  | blank =>
    rw [Interface.set, hkind]
    exact h
  | type =>
    rw [hkind] at hcarries
    rw [Interface.set, hkind, trim_trimEnd]
    exact { h with type_trimmed := trim_trim value, type_no_newline := hcarries }
  | enable spelling =>
    rw [Interface.set, hkind]
    exact { h with }
  | setting =>
    rw [hkind] at hcarries
    rw [← set_trim]
    exact h.set hcarries

namespace Document

/-- A document that is written as before after its text is read. -/
structure Settled (d : Document) : Prop where
  tidy : d.asWritten.Tidy
  none_idle : d.NoneIdle

namespace Settled

theorem write_eq_after_read {d : Document} (h : d.Settled) (firstId : Nat) :
    (read d.write firstId).write = d.write :=
  write_read_write_of_legible h.tidy.legible h.none_idle firstId

theorem empty : Document.empty.Settled where
  tidy := by
    have hempty : Document.empty.asWritten = Document.empty := by decide
    rw [hempty]
    exact Writable.empty.tidy
  none_idle := by
    intro name _ _
    exact entries_addReserved ⟨[], [], []⟩ name

theorem set_entry {d : Document} (h : d.Settled) {name key value : Text}
    (hname : WritableName name)
    (hnew : Entry.Writable ⟨key, trimEnd value⟩ ∨ blank key = true ∧ name ∈ reservedSections) :
    (d.editSection name (Entries.set · key value)).Settled := by
  rcases hnew with hnew | ⟨hkey, hreserved⟩
  · have hkey : blank key = false := by
      rw [blank_eq_false_iff, hnew.key_trimmed]
      exact hnew.key_ne_nil
    constructor
    · rw [asWritten_editSection d name _ (Entries.set · key (trimEnd value)) fun entries =>
        Entries.asWritten_set entries hkey value]
      exact h.tidy.editSection hname (Entries.writable_set (h.tidy.entries_writable name) hnew)
    · intro other hother hnil
      rw [entries_editSection] at hnil ⊢
      split at hnil
      next =>
        rw [Entries.asWritten_set _ hkey] at hnil
        exact absurd hnil (Entries.set_ne_nil _ _ _)
      next hne =>
        rw [if_neg hne]
        exact h.none_idle other hother hnil
  · constructor
    · rw [asWritten_editSection d name _ id fun entries =>
        Entries.asWritten_set_of_blank entries hkey value]
      exact h.tidy.editSection hname (h.tidy.entries_writable name)
    · intro other hother hnil
      have hne : other ≠ name := fun heq => hother (heq ▸ hreserved)
      rw [entries_editSection, if_neg hne] at hnil ⊢
      exact h.none_idle other hother hnil

theorem append {d : Document} (h : d.Settled) {s : Slot} (hs : s.interface.asWritten.Tidy) :
    (d.append s).Settled where
  tidy := by
    rw [asWritten_append]
    exact h.tidy.append hs
  none_idle := h.none_idle

theorem updateInterface {d : Document} (h : d.Settled) (id : InterfaceId) {key value : Text}
    (hcarries : (SettingKey.ofText key).Carries key value) :
    (d.updateInterface id (·.set key value)).Settled where
  tidy := by
    rw [asWritten_updateInterface d id _ (·.set key (trimEnd value)) fun i =>
      i.asWritten_set key value]
    exact h.tidy.updateInterface id fun i hi => hi.set_of_carries hcarries
  none_idle := h.none_idle

end Settled

end Document

namespace Session

theorem settled_apply {s : Session} (hs : s.document.Settled) {edit : Edit}
    (h : edit.KeepsText) : (s.apply edit).document.Settled := by
  cases edit with
  | editSection name edit =>
    cases edit with
    | set key value => exact hs.set_entry h.1 h.2
    | erase | setList | append | replace => exact h.elim
  | setGlobal key value =>
    exact hs.set_entry (.of_reserved (by decide)) (h.imp_right fun hkey => ⟨hkey, by decide⟩)
  | addInterface name type =>
    obtain ⟨hname, htype, htype'⟩ := h
    have htrimmed : trim (trimEnd type) = trimEnd type := by rw [trim_trimEnd, htype]
    exact hs.append (Interface.Tidy.new (trim_trim name) hname htrimmed (htype ▸ htype'))
  | editInterface id edit =>
    cases edit with
    | set key value => exact hs.updateInterface id h
    | erase | enable | rename | retype | respell | append => exact h.elim
  | addSection | addDiscovered | removeInterface | moveInterface => exact h.elim

theorem settled_run {s : Session} (hs : s.document.Settled) {edits : List Edit}
    (h : ∀ edit ∈ edits, edit.KeepsText) : (s.run edits).document.Settled := by
  induction edits generalizing s with
  | nil => exact hs
  | cons edit edits ih =>
    obtain ⟨hedit, hedits⟩ := List.forall_mem_cons.mp h
    exact ih (settled_apply hs hedit) hedits

/-- What a run of such edits makes of nothing is written as before after its text is read. -/
theorem run_write_read_write {edits : List Edit} (h : ∀ edit ∈ edits, edit.KeepsText)
    (firstId : Nat) :
    (Document.read (new.run edits).document.write firstId).write =
      (new.run edits).document.write :=
  (settled_run Document.Settled.empty h).write_eq_after_read firstId

theorem run_write_read_write_blanks :
    let edits : List Edit := [.setGlobal "loglevel".toList "4\t".toList,
      .setGlobal " ".toList "a\nb".toList,
      .editSection "peers".toList (.set "[north".toList "a = b  ".toList),
      .editSection "peers".toList (.set "[North".toList "c ".toList),
      .addInterface " Roof ".toList "AutoInterface  ".toList, .addInterface [] [],
      .editInterface ⟨0⟩ (.set " Mode ".toList "full ".toList),
      .editInterface ⟨1⟩ (.set "Enabled".toList "no\n".toList)]
    (∀ edit ∈ edits, edit.KeepsText) ∧
      (Document.read (new.run edits).document.write 2).write = (new.run edits).document.write := by
  intro edits
  have hedits : ∀ edit ∈ edits, edit.KeepsText := by decide +kernel
  exact ⟨hedits, run_write_read_write hedits 2⟩

/-- A blank in front of a value, a capital letter in the name of a section, an equals sign in a
key, a line break in a value, the mark of a comment, and a section of blank keys alone: each of
them makes a text that is another one after it is read and written. -/
theorem run_write_read_write_fails :
    ([.setGlobal "loglevel".toList " 4".toList,
        .editSection "Peers".toList (.set "north".toList "a".toList),
        .setGlobal "a=b".toList "c".toList,
        .addInterface "Roof".toList "AutoInterface\n[reticulum]\na = b".toList,
        .setGlobal "#a".toList "b".toList,
        .editSection "peers".toList (.set [] "a".toList)] : List Edit).any (fun edit =>
      (Document.read (new.run [edit]).document.write 0).write ==
        (new.run [edit]).document.write) = false := by
  decide +kernel

end Session

end GatewayConfig
