import GatewayConfig.Proofs.Interface
import GatewayConfig.Proofs.Writable

/-! # The block of an interface

A block consists of a header with the interface's name and of entries below it. If the interface
is writable, the entries make it up again. A blank name gives way to one that counts the
interface's position, after which a tidy interface is writable.
-/

namespace GatewayConfig
open Text

theorem Text.isBlank_of_isDigit {c : Char} (h : c.isDigit = true) : isBlank c = false := by
  simp only [Char.isDigit, Bool.and_eq_true, decide_eq_true_eq, UInt32.le_iff_toNat_le] at h
  have hlow : 48 ≤ c.toNat := h.1
  have hhigh : c.toNat ≤ 57 := h.2
  simp [isBlank]
  omega

namespace Interface

/-- The name that a blank one gives way to at a position, counted from one. -/
def countedName (position : Nat) : Text := "Interface ".toList ++ Text.ofNat (position + 1)

theorem isDigit_of_mem_ofNat {c : Char} {n : Nat} (h : c ∈ Text.ofNat n) : c.isDigit = true :=
  Nat.isDigit_of_mem_toDigits (by decide) (by decide) h

theorem countedName_ne_nil (position : Nat) : countedName position ≠ [] :=
  List.append_ne_nil_of_left_ne_nil (by decide) _

theorem trim_countedName (position : Nat) : trim (countedName position) = countedName position := by
  have hlast : (countedName position).getLast? = (Text.ofNat (position + 1)).getLast? :=
    List.getLast?_append_of_ne_nil _ Nat.toDigits_ne_nil
  refine trim_eq_self_iff.mpr ⟨fun c hc => ?_, fun c hc => ?_⟩
  · have hhead : (countedName position).head? = some 'I' := rfl
    cases hhead.symm.trans hc
    decide
  · rw [hlast] at hc
    exact isBlank_of_isDigit (isDigit_of_mem_ofNat (List.mem_of_getLast? hc))

theorem newline_not_mem_countedName (position : Nat) : '\n' ∉ countedName position := by
  intro hmem
  rcases List.mem_append.mp hmem with hmem | hmem
  · exact absurd hmem (by decide)
  · exact absurd (isDigit_of_mem_ofNat hmem) (by decide)

def fillName (i : Interface) (position : Nat) : Interface :=
  if blank i.name then { i with name := countedName position } else i

theorem title_eq (i : Interface) (position : Nat) :
    i.title position = if blank i.name then countedName position else trim i.name := by
  unfold title countedName
  rfl

theorem fillName_of_not_blank {i : Interface} (h : blank i.name = false) (position : Nat) :
    i.fillName position = i := by
  simp [fillName, h]

theorem title_fillName (i : Interface) (position : Nat) :
    (i.fillName position).title position = i.title position := by
  by_cases h : blank i.name = true
  · have hcounted : blank (countedName position) = false := by
      rw [blank_eq_false_iff, trim_countedName]
      exact countedName_ne_nil position
    simp [fillName, title_eq, h, hcounted, trim_countedName]
  · rw [fillName_of_not_blank (by simpa using h)]

/-- The name that is filled in is the one that is written. -/
theorem block_fillName (i : Interface) (position : Nat) :
    (i.fillName position).block position = i.block position := by
  rw [block, title_fillName, block, fillName]
  split <;> rfl

theorem Tidy.fillName {i : Interface} (h : i.Tidy) (position : Nat) :
    (i.fillName position).Writable := by
  by_cases hname : blank i.name = true
  · rw [Interface.fillName, if_pos hname]
    exact { h with
      name_trimmed := trim_countedName position
      name_no_newline := newline_not_mem_countedName position
      name_ne_nil := countedName_ne_nil position }
  · rw [Bool.not_eq_true] at hname
    rw [fillName_of_not_blank hname]
    rw [blank_eq_false_iff, h.name_trimmed] at hname
    exact { h with name_ne_nil := hname }

theorem Writable.not_blank {i : Interface} (h : i.Writable) : blank i.name = false := by
  rw [blank_eq_false_iff, h.name_trimmed]
  exact h.name_ne_nil

theorem Writable.title_eq_name {i : Interface} (h : i.Writable) (position : Nat) :
    i.title position = i.name := by
  rw [title_eq, h.not_blank, h.name_trimmed]
  simp

theorem Writable.fillName_eq_self {i : Interface} (h : i.Writable) (position : Nat) :
    i.fillName position = i :=
  fillName_of_not_blank h.not_blank position

def blockEntries (i : Interface) : List Entry :=
  (if blank i.type then [] else [⟨typeKey, i.type⟩]) ++
    ⟨i.enableKey.text, Flag.write i.enabled⟩ :: i.settings

theorem mem_blockEntries {i : Interface} {e : Entry} (h : e ∈ i.blockEntries) :
    e = ⟨typeKey, i.type⟩ ∨ e = ⟨i.enableKey.text, Flag.write i.enabled⟩ ∨ e ∈ i.settings := by
  rcases List.mem_append.mp h with h | h
  · split at h
    next => cases h
    next => exact .inl (List.mem_singleton.mp h)
  · exact .inr (List.mem_cons.mp h)

theorem writable_of_hoisted {key value : Text} (hkey : key ∈ hoistedKeys)
    (hvalue : trim value = value) (hnewline : '\n' ∉ value) : Entry.Writable ⟨key, value⟩ := by
  have hkeys : ∀ key ∈ hoistedKeys, Entry.Writable ⟨key, []⟩ ∧ key.head? ≠ some '[' := by
    decide
  obtain ⟨hwritable, hopen⟩ := hkeys key hkey
  exact { hwritable with
    value_trimmed := hvalue
    value_no_newline := hnewline
    not_bracketed := fun h => hopen h.1 }

theorem Tidy.writable_blockEntries {i : Interface} (h : i.Tidy) :
    ∀ e ∈ i.blockEntries, e.Writable := by
  have hflag : trim (Flag.write i.enabled) = Flag.write i.enabled ∧
      '\n' ∉ Flag.write i.enabled := by
    cases i.enabled <;> decide
  have henable : i.enableKey.text ∈ hoistedKeys := by
    cases i.enableKey <;> decide
  intro e he
  rcases mem_blockEntries he with rfl | rfl | he
  · exact writable_of_hoisted List.mem_cons_self h.type_trimmed h.type_no_newline
  · exact writable_of_hoisted henable hflag.1 hflag.2
  · exact h.settings_writable e he

theorem block_eq (i : Interface) (position : Nat) :
    i.block position =
      ("[[".toList ++ i.title position ++ "]]".toList) :: Entries.lines i.blockEntries := by
  have hflag : i.enableKey.text ++ " = ".toList ++ Flag.write i.enabled =
      Entry.line ⟨i.enableKey.text, Flag.write i.enabled⟩ := by
    cases i.enableKey <;> cases i.enabled <;> rfl
  have htype : blank typeKey = false := by decide
  have henable : blank i.enableKey.text = false := by cases i.enableKey <;> decide
  rw [block, blockEntries, hflag]
  split <;> simp [Entries.lines, htype, henable]

theorem newline_not_mem_title {i : Interface} (h : '\n' ∉ i.name) (position : Nat) :
    '\n' ∉ i.title position := by
  rw [title_eq]
  split
  next => exact newline_not_mem_countedName position
  next => exact fun hmem => h (mem_of_mem_trim hmem)

theorem Unbroken.entries_no_newline {i : Interface} (h : i.Unbroken) :
    ∀ l ∈ Entries.lines i.blockEntries, '\n' ∉ l := by
  have htype : '\n' ∉ typeKey := by decide
  have henable : '\n' ∉ i.enableKey.text := by cases i.enableKey <;> decide
  have hflag : '\n' ∉ Flag.write i.enabled := by cases i.enabled <;> decide
  intro l hl
  obtain ⟨e, he, -, rfl⟩ := Entries.mem_lines.mp hl
  rcases mem_blockEntries he with rfl | rfl | he
  · exact Entry.newline_not_mem_line htype h.type_no_newline
  · exact Entry.newline_not_mem_line henable hflag
  · obtain ⟨hkey, hvalue⟩ := h.settings_no_newline e he
    exact Entry.newline_not_mem_line hkey hvalue

theorem Unbroken.block_no_newline {i : Interface} (h : i.Unbroken) (position : Nat) :
    ∀ l ∈ i.block position, '\n' ∉ l := by
  rw [block_eq]
  refine List.forall_mem_cons.mpr ⟨?_, h.entries_no_newline⟩
  simp [newline_not_mem_title h.name_no_newline position]

theorem Writable.block_eq {i : Interface} (h : i.Writable) (position : Nat) :
    i.block position = ("[[".toList ++ i.name ++ "]]".toList) :: i.blockEntries.map Entry.line := by
  rw [Interface.block_eq, h.title_eq_name, Entries.lines_of_writable h.writable_blockEntries]

/-- Settings that are new to an interface are taken behind those that it has. -/
theorem foldl_enter_settings (i : Interface) (settings : List Entry)
    (h : Tidy { i with settings := i.settings ++ settings }) :
    settings.foldl (fun i e => i.enter e.key e.value) i =
      { i with settings := i.settings ++ settings } := by
  induction settings generalizing i with
  | nil => simp
  | cons e settings ih =>
    have htrimmed : ∀ e' ∈ i.settings ++ e :: settings, trim e'.key = e'.key :=
      fun e' he' => (h.settings_writable e' he').key_trimmed
    have habsent : keyForm e.key ∉ i.settings.map (keyForm ·.key) := by
      have hdistinct := h.settings_distinct
      rw [List.map_append, List.map_cons, List.nodup_append] at hdistinct
      rw [keyForm_of_trimmed (htrimmed e (by simp)),
        Entries.map_keyForm fun e' he' => htrimmed e' (by simp [he'])]
      exact fun hmem => hdistinct.2.2 _ hmem _ List.mem_cons_self rfl
    have henter : i.enter e.key e.value = { i with settings := i.settings ++ [e] } := by
      rw [enter_setting i (h.settings_not_hoisted e (by simp)), Entries.set_of_absent habsent]
    rw [List.foldl_cons, henter, ih _ (by simpa using h)]
    simp

/-- The lines of an interface's block make up the interface again. -/
theorem Writable.foldl_enter_blockEntries {i : Interface} (h : i.Writable) :
    i.blockEntries.foldl (fun i e => i.enter e.key e.value) (Interface.new i.name []) = i := by
  have htype : (if blank i.type then [] else [(⟨typeKey, i.type⟩ : Entry)]).foldl
      (fun i e => i.enter e.key e.value) (Interface.new i.name []) =
        Interface.new i.name i.type := by
    by_cases hblank : blank i.type = true
    · rw [if_pos hblank]
      rw [blank_iff, h.type_trimmed] at hblank
      rw [hblank]
      rfl
    · rw [if_neg hblank]
      rfl
  have hflag : Flag.read (Flag.write i.enabled) true = i.enabled := by
    cases i.enabled <;> decide
  have henable : (Interface.new i.name i.type).enter i.enableKey.text (Flag.write i.enabled) =
      { i with settings := [] } := by
    rw [enter_enable _ (k := i.enableKey) (by cases i.enableKey <;> decide), hflag]
    rfl
  rw [blockEntries, List.foldl_append, htype, List.foldl_cons, henable, foldl_enter_settings]
  · rfl
  · exact h.toTidy

end Interface

end GatewayConfig
