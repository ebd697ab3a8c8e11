import GatewayConfig.Proofs.Handles

/-! # Coherent documents

What holds of every document that is edited through its operations, whatever texts they are given:
the order lists each section once, the reserved sections are there, no id is used twice, and an
interface has at most one setting for a key and none for what stands beside its settings. Texts
that no line could carry do no harm here.
-/

namespace GatewayConfig
open Text

/-- The settings of an interface are told apart by their keys, and each of them is a setting. -/
structure Interface.Keyed (i : Interface) : Prop where
  forms_nodup : (i.settings.map (keyForm ·.key)).Nodup
  keys_not_blank : ∀ e ∈ i.settings, blank e.key = false
  keys_not_hoisted : ∀ e ∈ i.settings, keyForm e.key ∉ hoistedKeys

theorem SettingKey.ofText_eq_setting_iff {key : Text} :
    ofText key = .setting ↔ Text.blank key = false ∧ keyForm key ∉ hoistedKeys := by
  have hblank : (keyForm key).isEmpty = Text.blank key := by
    rw [keyForm, lowerAscii, List.isEmpty_map, Text.blank]
  have henable : EnableKey.ofText? (keyForm key) = none ↔ ∀ k : EnableKey, keyForm key ≠ k.text :=
    EnableKey.ofText?_lowerAscii_eq_none_iff
  rw [ofText, hblank, not_mem_hoistedKeys_iff, ← henable]
  by_cases hkey : Text.blank key = true
  · simp [hkey]
  · by_cases htype : keyForm key = typeKey
    · simp [hkey, htype]
    · cases EnableKey.ofText? (keyForm key) <;> simp [hkey, htype]

instance (i : Interface) : Decidable i.Keyed :=
  decidable_of_iff
    ((i.settings.map (keyForm ·.key)).Nodup ∧ ∀ e ∈ i.settings, SettingKey.ofText e.key = .setting)
    ⟨fun ⟨hforms, hkeys⟩ =>
        ⟨hforms, fun e he => (SettingKey.ofText_eq_setting_iff.mp (hkeys e he)).1,
          fun e he => (SettingKey.ofText_eq_setting_iff.mp (hkeys e he)).2⟩,
      fun h => ⟨h.forms_nodup, fun e he =>
        SettingKey.ofText_eq_setting_iff.mpr ⟨h.keys_not_blank e he, h.keys_not_hoisted e he⟩⟩⟩

namespace Interface

theorem Tidy.keyed {i : Interface} (h : i.Tidy) : i.Keyed := by
  have htrimmed : ∀ e ∈ i.settings, trim e.key = e.key :=
    fun e he => (h.settings_writable e he).key_trimmed
  constructor
  · rw [Entries.map_keyForm htrimmed]
    exact h.settings_distinct
  · intro e he
    rw [blank_eq_false_iff, htrimmed e he]
    exact (h.settings_writable e he).key_ne_nil
  · intro e he
    rw [keyForm_of_trimmed (htrimmed e he)]
    exact h.settings_not_hoisted e he

namespace Keyed

theorem new (name type : Text) : (Interface.new name type).Keyed := by
  constructor <;> simp [Interface.new]

theorem set {i : Interface} (h : i.Keyed) (key value : Text) : (i.set key value).Keyed := by
  rw [Interface.set]
  cases hkind : SettingKey.ofText key with
  | blank => exact h
  | type => exact { h with }
  | enable spelling => exact { h with }
  | setting =>
    obtain ⟨hblank, hhoisted⟩ := SettingKey.ofText_eq_setting_iff.mp hkind
    refine ⟨?_, fun e he => ?_, fun e he => ?_⟩
    · have hmap (l : List Entry) : l.map (keyForm ·.key) = (l.map (·.key)).map keyForm := by
        simp
      rcases Entries.map_key_set i.settings (trim key) value with hkeys | ⟨hkeys, habsent⟩
      · rw [hmap, hkeys, ← hmap]
        exact h.forms_nodup
      · rw [hmap, hkeys, List.map_append, ← hmap, List.map_singleton, ← List.concat_eq_append]
        exact h.forms_nodup.concat habsent
    · rcases Entries.mem_set he with he | rfl | ⟨old, hold, -, rfl⟩
      · exact h.keys_not_blank e he
      · rwa [blank, trim_trim]
      · exact h.keys_not_blank old hold
    · rcases Entries.mem_set he with he | rfl | ⟨old, hold, -, rfl⟩
      · exact h.keys_not_hoisted e he
      · rwa [keyForm_trim]
      · exact h.keys_not_hoisted old hold

theorem erase {i : Interface} (h : i.Keyed) (key : Text) : (i.erase key).Keyed := by
  have hsub := Entries.erase_sublist i.settings key
  exact ⟨(hsub.map _).nodup h.forms_nodup, fun e he => h.keys_not_blank e (hsub.subset he),
    fun e he => h.keys_not_hoisted e (hsub.subset he)⟩

end Keyed

end Interface

namespace Document

def ListsSections (d : Document) : Prop :=
  ∀ name, name ∈ d.order ↔ (Sections.find? d.sections name).isSome

structure SoundSections (d : Document) : Prop where
  order_nodup : d.order.Nodup
  lists_sections : d.ListsSections
  reserved_present : ∀ name ∈ reservedSections, (Sections.find? d.sections name).isSome

/-- What every operation on a document keeps. -/
structure Coherent (d : Document) : Prop extends d.SoundSections where
  ids_nodup : d.ids.Nodup
  interfaces_keyed : ∀ i ∈ d.interfaces, i.Keyed

theorem ListsSections.editSection {d : Document} (h : d.ListsSections) (name : Text)
    (edit : List Entry → List Entry) : (d.editSection name edit).ListsSections := by
  intro other
  rw [mem_order_editSection, Document.editSection, Sections.find?_update, h other]
  split
  next hother => simp [hother]
  next hother => simp [hother]

theorem ListsSections.addReserved {d : Document} (h : d.ListsSections) :
    d.addReserved.ListsSections :=
  List.foldlRecOn reservedSections addSection h fun _ hd name _ => hd.editSection name id

theorem listsSections_nil : ListsSections ⟨[], [], []⟩ := by simp [ListsSections, Sections.find?]

theorem SoundSections.editSection {d : Document} (h : d.SoundSections) (name : Text)
    (edit : List Entry → List Entry) : (d.editSection name edit).SoundSections where
  order_nodup := nodup_order_editSection h.order_nodup name edit
  lists_sections := h.lists_sections.editSection name edit
  reserved_present := by
    intro other hother
    rw [Document.editSection, Sections.find?_update]
    split
    next => rfl
    next => exact h.reserved_present other hother

end Document

/-- No line of a text sets the sections and their order apart. -/
theorem Reading.listsSections_step {r : Reading} (h : r.document.ListsSections) (l : Line) :
    (r.step l).document.ListsSections := by
  cases l with
  | blank | comment | unrecognized | malformedHeader => exact h
  | sectionHeader name => exact h.editSection _ _
  | interfaceHeader label =>
    rw [step]
    split
    next => exact h
    next => exact h
  | entry key value =>
    rw [step]
    split
    next => exact h
    next =>
      unfold enter
      split
      next => exact h
      next name _ => exact h.editSection name _
      next => exact h

theorem Reading.listsSections_ofText (t : Text) : (ofText t).document.ListsSections := by
  have hstart : start.document.ListsSections := Document.listsSections_nil
  exact List.foldlRecOn (motive := fun r => r.document.ListsSections) _ step hstart
    fun _ hr l _ => listsSections_step hr l

namespace Document

theorem soundSections_addReserved {d : Document} (hnodup : d.order.Nodup)
    (hlists : d.ListsSections) : d.addReserved.SoundSections where
  order_nodup :=
    List.foldlRecOn (motive := fun d => d.order.Nodup) reservedSections addSection hnodup
      fun _ hd name _ => nodup_order_editSection hd name id
  lists_sections := hlists.addReserved
  reserved_present := fun name hname =>
    (hlists.addReserved name).mp (mem_order_addReserved.mpr (.inr hname))

theorem soundSections_read (t : Text) (firstId : Nat) : (read t firstId).SoundSections := by
  have hsound := soundSections_addReserved (Reading.tidy_ofText t).sections.order_nodup
    (Reading.listsSections_ofText t)
  exact ⟨hsound.order_nodup, hsound.lists_sections, hsound.reserved_present⟩

end Document

/-- An edit of an interface that goes by the key of the setting it is about. -/
def InterfaceEdit.KeepsKeys : InterfaceEdit → Prop
  | append _ _ => False
  | _ => True

def Edit.KeepsKeys : Edit → Prop
  | addDiscovered entry fallback => ∀ i ∈ Discovered.interface? entry fallback, i.Keyed
  | editInterface _ edit => edit.KeepsKeys
  | _ => True

instance : DecidablePred InterfaceEdit.KeepsKeys
  | .append _ _ => .isFalse id
  | .set _ _ | .erase _ | .enable _ | .rename _ | .retype _ | .respell _ => .isTrue trivial

instance : DecidablePred Edit.KeepsKeys
  | .addDiscovered entry fallback =>
    inferInstanceAs (Decidable (∀ i ∈ Discovered.interface? entry fallback, i.Keyed))
  | .editInterface _ edit => inferInstanceAs (Decidable edit.KeepsKeys)
  | .addSection _ | .editSection _ _ | .setGlobal _ _ | .addInterface _ _ | .removeInterface _
  | .moveInterface _ _ => .isTrue trivial

theorem InterfaceEdit.KeepsKeys.apply {edit : InterfaceEdit} (h : edit.KeepsKeys) {i : Interface}
    (hi : i.Keyed) : (edit.apply i).Keyed := by
  cases edit with
  | set key value => exact hi.set key value
  | erase key => exact hi.erase key
  | enable | rename | retype | respell => exact { hi with }
  | append => exact h.elim

namespace Session

theorem soundSections_apply {s : Session} (h : s.document.SoundSections) (edit : Edit) :
    (s.apply edit).document.SoundSections := by
  cases edit with
  | addSection name => exact h.editSection name id
  | editSection name edit => exact h.editSection name _
  | setGlobal key value => exact h.editSection rootSection _
  | addInterface | removeInterface | editInterface => exact { h with }
  | addDiscovered entry fallback =>
    rw [apply]
    split
    next => exact { h with }
    next => exact h
  | moveInterface source target =>
    rw [apply]
    cases hmove : s.document.move? source target with
    | none => exact h
    | some d =>
      obtain ⟨-, -, rfl⟩ := Document.move?_eq_some_iff.mp hmove
      exact { h with }

theorem soundSections_run {s : Session} (h : s.document.SoundSections) (edits : List Edit) :
    (s.run edits).document.SoundSections := by
  induction edits generalizing s with
  | nil => exact h
  | cons edit edits ih => exact ih (soundSections_apply h edit)

theorem keyed_apply {s : Session} (h : ∀ i ∈ s.document.interfaces, i.Keyed) {edit : Edit}
    (hedit : edit.KeepsKeys) : ∀ i ∈ (s.apply edit).document.interfaces, i.Keyed := by
  cases edit with
  | addSection | editSection | setGlobal => exact h
  | addInterface name type => exact Document.forall_append h (.new name type)
  | addDiscovered entry fallback =>
    rw [apply]
    split
    next i hi => exact Document.forall_append h (hedit i hi)
    next => exact h
  | removeInterface id => exact Document.forall_remove h id
  | moveInterface source target =>
    rw [apply]
    cases hmove : s.document.move? source target with
    | none => exact h
    | some d => exact Document.forall_move? h hmove
  | editInterface id edit => exact Document.forall_updateInterface h id fun i hi => hedit.apply hi

theorem coherent_apply {s : Session} (hs : s.Numbered) (h : s.document.Coherent) {edit : Edit}
    (hedit : edit.KeepsKeys) : (s.apply edit).document.Coherent where
  toSoundSections := soundSections_apply h.toSoundSections edit
  ids_nodup := (hs.apply edit).ids_nodup
  interfaces_keyed := keyed_apply h.interfaces_keyed hedit

theorem coherent_run {s : Session} (hs : s.Numbered) (h : s.document.Coherent)
    {edits : List Edit} (hedits : ∀ edit ∈ edits, edit.KeepsKeys) :
    (s.run edits).document.Coherent := by
  induction edits generalizing s with
  | nil => exact h
  | cons edit edits ih =>
    obtain ⟨hedit, hedits⟩ := List.forall_mem_cons.mp hedits
    exact ih (hs.apply edit) (coherent_apply hs h hedit) hedits

theorem Opened.coherent {s : Session} (h : s.Opened) : s.document.Coherent := by
  have hids := h.numbered.ids_nodup
  cases h with
  | new =>
    refine ⟨Document.soundSections_addReserved List.nodup_nil Document.listsSections_nil, hids, ?_⟩
    simp [Session.new, Document.interfaces, Document.empty]
  | openText t firstId =>
    refine ⟨Document.soundSections_read t firstId, hids, fun i hi => ?_⟩
    exact ((Document.tidy_read t firstId).interfaces_tidy i hi).keyed

/-- However a document is edited through its operations, it stays coherent. -/
theorem run_coherent {s : Session} (h : s.Opened) {edits : List Edit}
    (hedits : ∀ edit ∈ edits, edit.KeepsKeys) : (s.run edits).document.Coherent :=
  coherent_run h.numbered h.coherent hedits

theorem run_coherent_untidy :
    let s := openText
      "[a]\nx = 1\nX = 2\n[interfaces]\n[[Roof]]\n Mode = ap\nmode = full\n".toList 3
    let edits : List Edit := [.addSection "A\n]".toList,
      .editSection "a".toList (.replace [⟨[], "y".toList⟩, ⟨" x".toList, []⟩]),
      .setGlobal " ".toList "b".toList, .addInterface [] "\n".toList, .moveInterface 1 0,
      .editInterface ⟨3⟩ (.set " MODE\t".toList "[x".toList),
      .editInterface ⟨4⟩ (.set "\n".toList "c".toList),
      .editInterface ⟨4⟩ (.set "a=b".toList "c".toList),
      .editInterface ⟨3⟩ (.erase "mode".toList), .editInterface ⟨4⟩ (.enable false),
      .removeInterface ⟨3⟩]
    s.Opened ∧ (∀ edit ∈ edits, edit.KeepsKeys) ∧ (s.run edits).document.Coherent := by
  intro s edits
  have hedits : ∀ edit ∈ edits, edit.KeepsKeys := by decide +kernel
  exact ⟨.openText _ 3, hedits, run_coherent (.openText _ 3) hedits⟩

end Session

end GatewayConfig
