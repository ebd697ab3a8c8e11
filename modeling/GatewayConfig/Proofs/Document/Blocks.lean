import GatewayConfig.Proofs.Document.Reading
import GatewayConfig.Proofs.InterfaceBlock

/-! # Written blocks are read back

A section's block adds the section with its entries, and an interface's block adds the interface.
A block has this effect wherever in a text it stands, so the blocks of a document are read one
after the other.
-/

namespace GatewayConfig
open Text

namespace Reading

def through (r : Reading) (ls : List Text) : Reading := (ls.map Line.classify).foldl step r

theorem ofText_eq_through (t : Text) : ofText t = start.through (lines t) := rfl

@[simp] theorem through_nil (r : Reading) : r.through [] = r := rfl

theorem through_cons (r : Reading) (l : Text) (ls : List Text) :
    r.through (l :: ls) = (r.step (Line.classify l)).through ls := rfl

theorem through_append (r : Reading) (ls ms : List Text) :
    r.through (ls ++ ms) = (r.through ls).through ms := by
  simp only [through, List.map_append, List.foldl_append]

theorem through_empty_line (r : Reading) : r.through [[]] = r := rfl

/-- The empty lines between blocks have no effect. -/
theorem through_lines_join (r : Reading) {blocks : List (List Text)}
    (h : ∀ block ∈ blocks, block ≠ []) :
    r.through (lines (join "\n\n".toList (blocks.map (join "\n".toList)) ++ "\n".toList)) =
      r.through (blocks.flatten.flatMap lines) := by
  by_cases hne : blocks = []
  · subst hne
    rfl
  · have hempty (r : Reading) : r.through (blocks.flatMap fun block => block.flatMap lines ++ [[]]) =
        r.through (blocks.flatten.flatMap lines) := by
      clear h hne
      induction blocks generalizing r with
      | nil => rfl
      | cons block rest ih =>
        rw [List.flatMap_cons, through_append, through_append, through_empty_line, ih,
          ← through_append, List.flatten_cons, List.flatMap_append]
    rw [lines_join_blocks hne h, hempty]

theorem through_lines_append (r : Reading) (blocks more : List (List Text)) :
    r.through ((blocks ++ more).flatten.flatMap lines) =
      (r.through (blocks.flatten.flatMap lines)).through (more.flatten.flatMap lines) := by
  rw [List.flatten_append, List.flatMap_append, through_append]

theorem through_entries_inSection (d : Document) (interfaces : List Interface) (name : Text)
    (before : List Entry) {entries : List Entry} (h : ∀ e ∈ entries, e.Writable) :
    through ⟨.inSection name, d.editSection name (· ++ before), interfaces⟩
        (entries.map Entry.line) =
      ⟨.inSection name, d.editSection name (· ++ (before ++ entries)), interfaces⟩ := by
  induction entries generalizing before with
  | nil => simp
  | cons e entries ih =>
    obtain ⟨he, hentries⟩ := List.forall_mem_cons.mp h
    have hstep : step ⟨.inSection name, d.editSection name (· ++ before), interfaces⟩
          (.entry e.key e.value) =
        ⟨.inSection name, d.editSection name (· ++ (before ++ [e])), interfaces⟩ := by
      simp [step, enter, he.key_ne_nil, Document.editSection_editSection, Function.comp_def]
    rw [List.map_cons, through_cons, he.classify_line, hstep, ih _ hentries, List.append_assoc]
    rfl

theorem through_entries_inInterface (d : Document) (before : List Interface) (i : Interface)
    {entries : List Entry} (h : ∀ e ∈ entries, e.Writable) :
    through ⟨.inInterface, d, before ++ [i]⟩ (entries.map Entry.line) =
      ⟨.inInterface, d, before ++ [entries.foldl (fun i e => i.enter e.key e.value) i]⟩ := by
  induction entries generalizing i with
  | nil => rfl
  | cons e entries ih =>
    obtain ⟨he, hentries⟩ := List.forall_mem_cons.mp h
    have hstep : step ⟨.inInterface, d, before ++ [i]⟩ (.entry e.key e.value) =
        ⟨.inInterface, d, before ++ [i.enter e.key e.value]⟩ := by
      simp [step, enter, he.key_ne_nil, Interface.updateLast_concat]
    rw [List.map_cons, through_cons, he.classify_line, hstep, ih _ hentries]
    rfl

theorem through_sectionBlock (r : Reading) (d : Document) {name : Text} (hname : WritableName name)
    (hentries : ∀ e ∈ d.entries name, e.Writable) :
    r.through (d.sectionBlock name) =
      ⟨.inSection name, r.document.editSection name (· ++ d.entries name), r.interfaces⟩ := by
  have hopen : r.step (.sectionHeader name) =
      ⟨.inSection name, r.document.editSection name (· ++ []), r.interfaces⟩ := by
    simp [step, hname.sectionKey, Document.addSection, Function.id_def]
  rw [Document.sectionBlock, through_cons, hname.classify, hopen,
    Entries.lines_of_writable hentries, through_entries_inSection _ _ _ _ hentries,
    List.nil_append]

/-- An interface's block adds the interface. -/
theorem through_interfaceBlock (r : Reading) (hplace : r.place.allowsInterface = true)
    {i : Interface} (h : i.Writable) (position : Nat) :
    r.through (i.block position) = ⟨.inInterface, r.document, r.interfaces ++ [i]⟩ := by
  have hopen : r.step (.interfaceHeader i.name) =
      ⟨.inInterface, r.document, r.interfaces ++ [Interface.new i.name []]⟩ := by
    simp [step, hplace, h.name_trimmed]
  rw [h.block_eq, through_cons, Line.classify_label h.name_ne_nil, hopen,
    through_entries_inInterface _ _ _ h.writable_blockEntries, h.foldl_enter_blockEntries]

/-- The blocks of tidy interfaces add them in their order under the names that they are written
with. -/
theorem through_interfaceBlocks (r : Reading) (hplace : r.place.allowsInterface = true)
    {interfaces : List Interface} (h : ∀ i ∈ interfaces, i.Tidy) (first : Nat) :
    ∃ place : Place, place.allowsInterface = true ∧
      r.through (interfaces.mapIdx fun k i => i.block (first + k)).flatten =
        ⟨place, r.document,
          r.interfaces ++ interfaces.mapIdx fun k i => i.fillName (first + k)⟩ := by
  induction interfaces generalizing r first with
  | nil => exact ⟨r.place, hplace, by simp⟩
  | cons i rest ih =>
    obtain ⟨hi, hrest⟩ := List.forall_mem_cons.mp h
    obtain ⟨place, hplace', hthrough⟩ :=
      ih ⟨.inInterface, r.document, r.interfaces ++ [i.fillName first]⟩ rfl hrest (first + 1)
    refine ⟨place, hplace', ?_⟩
    have hblock := through_interfaceBlock r hplace (hi.fillName first) first
    rw [Interface.block_fillName] at hblock
    simp only [Nat.add_assoc, Nat.add_comm 1] at hthrough
    rw [List.mapIdx_cons, List.flatten_cons, Nat.add_zero, through_append, hblock, hthrough,
      List.mapIdx_cons, List.append_assoc]
    rfl

end Reading

end GatewayConfig
