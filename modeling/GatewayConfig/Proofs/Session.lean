import GatewayConfig.Proofs.Document.Writable
import GatewayConfig.Session

/-! # Editing sessions keep documents reloadable

Writability of an edit is a condition on its arguments alone. Writable edits keep a document
writable, whatever their number and order, so that what a session leaves behind comes back from
its written form.
-/

namespace GatewayConfig
open Text

def EntriesEdit.Writable : EntriesEdit → Prop
  | set key value => Entry.Writable ⟨key, value⟩
  | erase _ => True
  | setList key items => Entry.Writable ⟨key, ValueList.write items⟩
  | append key value => Entry.Writable ⟨key, value⟩
  | replace entries => ∀ e ∈ entries, e.Writable

/-- An edit of an interface that keeps it writable. To append a setting is none, as the interface
may have one for the key. -/
def InterfaceEdit.Writable : InterfaceEdit → Prop
  | set key value => Entry.Writable ⟨key, value⟩
  | erase _ | enable _ | respell _ => True
  | rename name => name ≠ [] ∧ trim name = name ∧ '\n' ∉ name
  | retype type => trim type = type ∧ '\n' ∉ type
  | append _ _ => False

def Edit.Writable : Edit → Prop
  | addSection name => WritableName name
  | editSection name edit => WritableName name ∧ edit.Writable
  | setGlobal key value => Entry.Writable ⟨key, value⟩
  | addInterface name type =>
    (name ≠ [] ∧ trim name = name ∧ '\n' ∉ name) ∧ trim type = type ∧ '\n' ∉ type
  | addDiscovered entry fallback =>
    ∀ i ∈ Discovered.interface? entry fallback, i.Writable
  | removeInterface _ | moveInterface _ _ => True
  | editInterface _ edit => edit.Writable

instance : DecidablePred EntriesEdit.Writable
  | .set key value => inferInstanceAs (Decidable (Entry.Writable ⟨key, value⟩))
  | .erase _ => .isTrue trivial
  | .setList key items => inferInstanceAs (Decidable (Entry.Writable ⟨key, ValueList.write items⟩))
  | .append key value => inferInstanceAs (Decidable (Entry.Writable ⟨key, value⟩))
  | .replace entries => inferInstanceAs (Decidable (∀ e ∈ entries, e.Writable))

instance : DecidablePred InterfaceEdit.Writable
  | .set key value => inferInstanceAs (Decidable (Entry.Writable ⟨key, value⟩))
  | .erase _ | .enable _ | .respell _ => .isTrue trivial
  | .rename name => inferInstanceAs (Decidable (name ≠ [] ∧ trim name = name ∧ '\n' ∉ name))
  | .retype type => inferInstanceAs (Decidable (trim type = type ∧ '\n' ∉ type))
  | .append _ _ => .isFalse id

instance : DecidablePred Edit.Writable
  | .addSection name => inferInstanceAs (Decidable (WritableName name))
  | .editSection name edit => inferInstanceAs (Decidable (WritableName name ∧ edit.Writable))
  | .setGlobal key value => inferInstanceAs (Decidable (Entry.Writable ⟨key, value⟩))
  | .addInterface name type =>
    inferInstanceAs (Decidable
      ((name ≠ [] ∧ trim name = name ∧ '\n' ∉ name) ∧ trim type = type ∧ '\n' ∉ type))
  | .addDiscovered entry fallback =>
    inferInstanceAs (Decidable (∀ i ∈ Discovered.interface? entry fallback, i.Writable))
  | .removeInterface _ | .moveInterface _ _ => .isTrue trivial
  | .editInterface _ edit => inferInstanceAs (Decidable edit.Writable)

theorem EntriesEdit.Writable.apply {edit : EntriesEdit} (h : edit.Writable) {entries : List Entry}
    (hentries : ∀ e ∈ entries, e.Writable) : ∀ e ∈ edit.apply entries, e.Writable := by
  cases edit with
  | set key value => exact Entries.writable_set hentries h
  | erase key => exact Entries.writable_erase hentries key
  | setList key items =>
    rw [EntriesEdit.apply, Entries.setList]
    split
    next => exact Entries.writable_erase hentries key
    next => exact Entries.writable_set hentries h
  | append key value =>
    intro e he
    rcases List.mem_append.mp he with he | he
    · exact hentries e he
    · rw [List.mem_singleton.mp he]
      exact h
  | replace others => exact h

theorem InterfaceEdit.Writable.apply {edit : InterfaceEdit} (h : edit.Writable) {i : Interface}
    (hi : i.Writable) : (edit.apply i).Writable := by
  cases edit with
  | set key value => exact hi.set h
  | erase key => exact { hi.toTidy.erase key with name_ne_nil := hi.name_ne_nil }
  | enable flag => exact { hi with }
  | respell key => exact { hi with }
  | rename name =>
    exact { hi with name_ne_nil := h.1, name_trimmed := h.2.1, name_no_newline := h.2.2 }
  | retype type => exact { hi with type_trimmed := h.1, type_no_newline := h.2 }
  | append key value => exact h.elim

namespace Session

/-- What a session starts from: nothing, or a text whose interfaces all have names. -/
inductive Start : Session → Prop
  | new : Start Session.new
  | openText (t : Text) (firstId : Nat)
      (h : ∀ i ∈ (Document.read t firstId).interfaces, blank i.name = false) :
    Start (Session.openText t firstId)

theorem Start.writable {s : Session} (h : s.Start) : s.document.Writable := by
  cases h with
  | new => exact .empty
  | openText t firstId h => exact Document.writable_read h

theorem writable_apply {s : Session} (hs : s.document.Writable) {edit : Edit}
    (h : edit.Writable) : (s.apply edit).document.Writable := by
  cases edit with
  | addSection name => exact hs.editSection h (hs.entries_writable name)
  | editSection name edit => exact hs.editSection h.1 (h.2.apply (hs.entries_writable name))
  | setGlobal key value =>
    exact hs.editSection (.of_reserved (by decide))
      (Entries.writable_set (hs.entries_writable rootSection) h)
  | addInterface name type =>
    obtain ⟨⟨hne, hname, hname'⟩, htype, htype'⟩ := h
    exact hs.append { Interface.Tidy.new hname hname' htype htype' with name_ne_nil := hne }
  | addDiscovered entry fallback =>
    rw [apply]
    split
    next i hi => exact hs.append (h i hi)
    next => exact hs
  | removeInterface id => exact hs.remove id
  | moveInterface source target =>
    rw [apply]
    cases hmove : s.document.move? source target with
    | none => exact hs
    | some d => exact hs.move? hmove
  | editInterface id edit => exact hs.updateInterface id fun i hi => h.apply hi

theorem writable_run {s : Session} (hs : s.document.Writable) {edits : List Edit}
    (h : ∀ edit ∈ edits, edit.Writable) : (s.run edits).document.Writable := by
  induction edits generalizing s with
  | nil => exact hs
  | cons edit edits ih =>
    obtain ⟨hedit, hedits⟩ := List.forall_mem_cons.mp h
    exact ih (writable_apply hs hedit) hedits

/-- Whatever a run of writable edits makes comes back as it was from its written form. -/
theorem run_contentEq_read_write {s : Session} (hs : s.Start) {edits : List Edit}
    (h : ∀ edit ∈ edits, edit.Writable) (firstId : Nat) :
    (Document.read (s.run edits).document.write firstId).contentEq (s.run edits).document =
      true := by
  have hwritable : (s.run edits).document.Writable := writable_run hs.writable h
  exact hwritable.reloadable.contentEq_read_write firstId

theorem run_contentEq_read_write_moved :
    let s := (openText "[interfaces]\n[[Roof]]\ntype = TCPClientInterface\n".toList 0).run
      [.addSection "peers".toList,
        .editSection "peers".toList (.set "[north".toList "a = b".toList),
        .editSection "peers".toList (.set "[North".toList "c".toList),
        .setGlobal "enable_transport".toList "yes".toList, .addInterface "Hall".toList [],
        .moveInterface 1 0, .editInterface ⟨1⟩ (.set "Type".toList "AutoInterface".toList),
        .editInterface ⟨1⟩ (.enable false), .editInterface ⟨1⟩ (.erase "mode".toList),
        .removeInterface ⟨0⟩]
    (Document.read s.document.write 2).contentEq s.document = true :=
  run_contentEq_read_write (.openText _ 0 (Document.named_read (by decide +kernel) 0))
    (by decide +kernel) 2

end Session

end GatewayConfig
