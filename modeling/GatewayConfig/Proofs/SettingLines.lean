import GatewayConfig.Proofs.Coherence
import GatewayConfig.Proofs.Document.AsWritten
import GatewayConfig.Proofs.Document.Content

/-! # The lines of settings

A setting has a line of its own in the block of its interface. Main statement: whatever a session
has been through, setting a key replaces or adds one line of the text, dropping a key takes one
away, and the enable flag has one line as well. All other lines stay as they are.
-/

namespace GatewayConfig
open Text

theorem Entry.answersTo_trim (key : Text) : answersTo (trim key) = answersTo key := by
  funext e
  rw [answersTo, keyForm_trim, answersTo]

namespace Entries

theorem lines_append (entries more : List Entry) :
    lines (entries ++ more) = lines entries ++ lines more := by
  rw [lines, List.filter_append, List.map_append, lines, lines]

theorem lines_split {e : Entry} (h : blank e.key = false) (before after : List Entry) :
    lines (before ++ e :: after) = lines before ++ e.line :: lines after := by
  rw [lines_append, lines_cons, h, if_neg Bool.false_ne_true]

/-- The entry that stands for a key splits the list, and what is done for the key is done there. -/
theorem split_of_find? {entries : List Entry} {key : Text} {e : Entry}
    (h : entries.find? (·.answersTo key) = some e) :
    ∃ after, entries = entries.takeWhile (!·.answersTo key) ++ e :: after ∧
      (∀ value, set entries key value =
        entries.takeWhile (!·.answersTo key) ++ { e with value } :: after) ∧
      erase entries key = entries.takeWhile (!·.answersTo key) ++ after := by
  induction entries with
  | nil => cases h
  | cons first rest ih =>
    by_cases hfirst : first.answersTo key = true
    · obtain rfl : first = e := by simpa [hfirst] using h
      exact ⟨rest, by simp [hfirst], by simp [set, hfirst], by simp [erase, hfirst]⟩
    · rw [List.find?_cons_of_neg hfirst] at h
      obtain ⟨after, hsplit, hset, herase⟩ := ih h
      rw [Bool.not_eq_true] at hfirst
      refine ⟨after, ?_, fun value => ?_, ?_⟩
      · simpa [hfirst] using hsplit
      · simp [set, hfirst, hset]
      · rw [erase, List.eraseP_cons_of_neg (by simp [hfirst]), ← erase, herase]
        simp [hfirst]

end Entries

namespace Interface

def headLines (i : Interface) (position : Nat) : List Text :=
  ("[[".toList ++ i.title position ++ "]]".toList) ::
    if blank i.type then [] else [Entry.line ⟨typeKey, i.type⟩]

def enableLine (i : Interface) : Text := i.enableKey.text ++ " = ".toList ++ Flag.write i.enabled

theorem block_with_settings (i : Interface) (settings : List Entry) (position : Nat) :
    ({ i with settings } : Interface).block position =
      i.headLines position ++ i.enableLine :: Entries.lines settings := rfl

/-- The line of a key in the block of an interface, between others: the line of the first setting
for the key. -/
structure LineOf (i : Interface) (position : Nat) (key : Text) (e : Entry)
    (above below : List Text) : Prop where
  stands : i.settings.find? (·.answersTo key) = some e
  above_eq : above = i.headLines position ++
    i.enableLine :: Entries.lines (i.settings.takeWhile (!·.answersTo key))
  block : i.block position = above ++ e.line :: below

theorem set_of_setting (i : Interface) {key : Text} (hkey : SettingKey.ofText key = .setting)
    (value : Text) :
    i.set key value = { i with settings := Entries.set i.settings (trim key) value } := by
  rw [set, hkey]

/-- A key that an interface has a value for has a line, which goes along with the value. -/
theorem exists_lineOf {i : Interface} {key : Text} (hkey : blank key = false)
    (hpresent : (i.setting? key).isSome) (position : Nat) :
    ∃ e above below, i.LineOf position key e above below ∧
      (SettingKey.ofText key = .setting → ∀ value,
        (i.set key value).block position = above ++ Entry.line { e with value } :: below) ∧
      (i.erase key).block position = above ++ below := by
  rw [setting?, Entries.get?, Option.isSome_map] at hpresent
  obtain ⟨e, he⟩ := Option.isSome_iff_exists.mp hpresent
  have hblank : blank e.key = false := by
    rw [blank_eq_of_keyForm_eq (Entry.answersTo_iff.mp (List.find?_some he)), hkey]
  -- An edit of the settings goes by the trimmed key, which stands for the same entry.
  have he' : i.settings.find? (·.answersTo (trim key)) = some e := by
    rwa [Entry.answersTo_trim]
  obtain ⟨after, hsplit, hset, herase⟩ := Entries.split_of_find? he'
  simp only [Entries.erase, Entry.answersTo_trim] at hsplit hset herase
  refine ⟨e, _, Entries.lines after, ⟨he, rfl, ?_⟩, fun hsetting value => ?_, ?_⟩
  · have hlines := congrArg Entries.lines hsplit
    rw [Entries.lines_split hblank] at hlines
    rw [i.block_with_settings i.settings, hlines, List.append_assoc, List.cons_append]
  · have hblank' : blank ({ e with value } : Entry).key = false := hblank
    rw [set_of_setting i hsetting, block_with_settings, hset, Entries.lines_split hblank',
      List.append_assoc, List.cons_append]
  · rw [erase, Entries.erase, block_with_settings, herase, Entries.lines_append,
      List.append_assoc, List.cons_append]

/-- A key without a value gets a line at the end of the block. -/
theorem block_set_of_absent {i : Interface} {key : Text}
    (hkey : SettingKey.ofText key = .setting) (habsent : i.setting? key = none) (position : Nat)
    (value : Text) :
    (i.set key value).block position = i.block position ++ [Entry.line ⟨trim key, value⟩] := by
  have habsent : keyForm (trim key) ∉ i.settings.map (keyForm ·.key) := by
    rw [keyForm_trim]
    exact Entries.get?_eq_none_iff.mp habsent
  have hblank : blank (trim key) = false := by
    rw [blank, trim_trim]
    exact SettingKey.not_blank_of_setting hkey
  rw [set_of_setting i hkey, Entries.set_of_absent habsent, block_with_settings,
    Entries.lines_split hblank, i.block_with_settings i.settings, List.append_assoc,
    List.cons_append]
  rfl

end Interface

theorem Document.exists_blocks_updateInterface {d : Document} (hd : d.SoundSections)
    {id : InterfaceId} {i : Interface} (hi : d.Resolves id i) :
    ∃ position above after, d.index? id = some position ∧
      d.blocks = above ++ d.blocksTo position ++ i.block position :: after ∧
      ∀ edit, (d.updateInterface id edit).blocks =
        above ++ d.blocksTo position ++ (edit i).block position :: after := by
  obtain ⟨position, hresolves⟩ := hi
  have hreserved : ∀ name ∈ reservedSections, name ∈ d.order :=
    fun name hname => (hd.lists_sections name).mpr (hd.reserved_present name hname)
  have hat : d.interfaces[position]? = some i := by
    rw [interfaces, List.getElem?_map, hresolves.slot]
    rfl
  obtain ⟨above, after, hblocks⟩ := exists_blocks_updateAt hd.order_nodup hreserved hat
  refine ⟨position, above, after, hresolves.index, ?_, fun edit => ?_⟩
  · rw [← hblocks fun i => i, updateAt_self]
  · rw [hresolves.update, hblocks]

/-- The key is that of a setting, whatever its case and outer blanks, and the line of the entry
has no break in it. -/
structure Entry.FitsLine (e : Entry) : Prop where
  not_blank : blank e.key = false
  not_hoisted : keyForm e.key ∉ hoistedKeys
  key_no_newline : '\n' ∉ e.key
  value_no_newline : '\n' ∉ e.value

theorem Entry.FitsLine.is_setting {e : Entry} (h : e.FitsLine) :
    SettingKey.ofText e.key = .setting :=
  SettingKey.ofText_eq_setting_iff.mpr ⟨h.not_blank, h.not_hoisted⟩

namespace Session
open Document

/-- The interface under the id has its block between the blocks `before` and `after`, and an edit
of one setting changes one line of this block and no other line of the text. -/
structure ChangesOneLine (s : Session) (id : InterfaceId) (i : Interface) (position : Nat)
    (before after : List (List Text)) : Prop where
  index : s.document.index? id = some position
  /-- In front of the block are others, and last those from the interfaces' own section on. -/
  before_eq : ∃ above, before = above ++ s.document.blocksTo position
  blocks : s.document.blocks = before ++ i.block position :: after
  written : lines s.document.write = linesAround before after (i.block position)
  /-- A key that is there keeps its line, with the new value. -/
  replaces : ∀ key value, Entry.FitsLine ⟨key, value⟩ → (i.setting? key).isSome →
    ∃ e above below, i.LineOf position key e above below ∧
      lines (s.apply (.editInterface id (.set key value))).document.write =
        linesAround before after (above ++ Entry.line { e with value } :: below)
  /-- A key that is new gets a line at the end of the block. -/
  inserts : ∀ key value, Entry.FitsLine ⟨key, value⟩ → i.setting? key = none →
    lines (s.apply (.editInterface id (.set key value))).document.write =
      linesAround before after (i.block position ++ [Entry.line ⟨trim key, value⟩])
  /-- A key that is dropped takes its line along. -/
  deletes : ∀ key, blank key = false → (i.setting? key).isSome →
    ∃ e above below, i.LineOf position key e above below ∧
      lines (s.apply (.editInterface id (.erase key))).document.write =
        linesAround before after (above ++ below)
  /-- The enable flag is in a line between those above it and those of the settings. -/
  enables : i.block position =
      i.headLines position ++ i.enableLine :: Entries.lines i.settings ∧
    ∀ flag, lines (s.apply (.editInterface id (.enable flag))).document.write =
      linesAround before after (i.headLines position ++
        Interface.enableLine { i with enabled := flag } :: Entries.lines i.settings)

theorem exists_changesOneLine {s : Session} (hs : s.document.SoundSections) {id : InterfaceId}
    {i : Interface} (hi : s.document.Resolves id i) (hlines : i.Unbroken) :
    ∃ position before after, s.ChangesOneLine id i position before after := by
  obtain ⟨position, sections, after, hindex, hblocks, hedit⟩ :=
    exists_blocks_updateInterface hs hi
  have hwrite (edit : InterfaceEdit) (h : (edit.apply i).Unbroken) :
      lines (s.apply (.editInterface id edit)).document.write =
        linesAround (sections ++ s.document.blocksTo position) after
          ((edit.apply i).block position) := by
    rw [apply, lines_write, hedit, linesOf_eq_linesAround, flatMap_lines (h.block_no_newline _)]
  refine ⟨position, _, after, hindex, ⟨sections, rfl⟩, hblocks, ?_, ?_, ?_, ?_, rfl, ?_⟩
  · rw [lines_write, hblocks, linesOf_eq_linesAround, flatMap_lines (hlines.block_no_newline _)]
  · intro key value h hpresent
    obtain ⟨e, above, below, hline, hset, -⟩ :=
      Interface.exists_lineOf h.not_blank hpresent position
    refine ⟨e, above, below, hline, ?_⟩
    rw [hwrite (.set key value) (hlines.set h.key_no_newline h.value_no_newline),
      InterfaceEdit.apply, hset h.is_setting]
  · intro key value h habsent
    rw [hwrite (.set key value) (hlines.set h.key_no_newline h.value_no_newline),
      InterfaceEdit.apply, Interface.block_set_of_absent h.is_setting habsent]
  · intro key hkey hpresent
    obtain ⟨e, above, below, hline, -, herase⟩ := Interface.exists_lineOf hkey hpresent position
    refine ⟨e, above, below, hline, ?_⟩
    rw [hwrite (.erase key) (hlines.erase key), InterfaceEdit.apply, herase]
  · intro flag
    rw [hwrite (.enable flag) { hlines with }]
    rfl

/-- Whatever a session has been through, an edit of one setting is an edit of one line. -/
theorem run_changesOneLine {s : Session} (h : s.Opened) (edits : List Edit) {id : InterfaceId}
    {i : Interface} (hi : ⟨id, i⟩ ∈ (s.run edits).document.slots) (hlines : i.Unbroken) :
    ∃ position before after, (s.run edits).ChangesOneLine id i position before after :=
  exists_changesOneLine (soundSections_run h.coherent.toSoundSections edits)
    (resolves_of_mem (h.numbered.run edits).ids_nodup hi) hlines

theorem run_changesOneLine_between :
    let s := openText
      "[interfaces]\n[[Roof]]\n[[ ]]\n[[Hall]]\nMode = ap \nport=1\n[peers]\na = b".toList 3
    let edits : List Edit := [.addInterface [] "b\nc".toList, .setGlobal "d\n".toList [],
      .moveInterface 2 1, .editInterface ⟨5⟩ (.set " PORT".toList "2".toList),
      .editInterface ⟨5⟩ (.append [] "e".toList)]
    let i : Interface :=
      { Interface.new "Hall".toList [] with
        settings := [⟨"Mode".toList, "ap".toList⟩, ⟨"port".toList, "2".toList⟩,
          ⟨[], "e".toList⟩] }
    s.Opened ∧ ⟨⟨5⟩, i⟩ ∈ (s.run edits).document.slots ∧ i.Unbroken ∧
      ∃ position before after, (s.run edits).ChangesOneLine ⟨5⟩ i position before after := by
  intro s edits i
  have hi : ⟨⟨5⟩, i⟩ ∈ (s.run edits).document.slots := by decide +kernel
  have hlines : i.Unbroken := ⟨by decide +kernel, by decide +kernel, by decide +kernel⟩
  exact ⟨.openText _ 3, hi, hlines, run_changesOneLine (.openText _ 3) edits hi hlines⟩

end Session

end GatewayConfig
