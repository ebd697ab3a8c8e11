import GatewayConfig.Proofs.Document.Sections
import GatewayConfig.Proofs.Document.Slots
import GatewayConfig.Proofs.InterfaceBlock
import GatewayConfig.Proofs.Text.Lines
import Mathlib.Data.List.TakeDrop

/-! # The written content of a document

Which sections show in the written form, and what equality of contents compares. A document that
lists the reserved sections is written section by section in its own order, so that its text
depends on its content alone. It is written block by block, each with an empty line below it, and
to change one interface is to change one block, wherever in the text it is.
-/

namespace GatewayConfig
open Text

namespace Document

/-- Whether a section shows in the written form: it is reserved or has entries. -/
def shows (d : Document) (name : Text) : Bool :=
  !(d.entries name).isEmpty || reservedSections.contains name

def significantNames (d : Document) : List Text := d.order.filter d.shows

theorem mem_significantNames {d : Document} {name : Text} :
    name ∈ d.significantNames ↔
      name ∈ d.order ∧ (d.entries name ≠ [] ∨ name ∈ reservedSections) := by
  simp [significantNames, shows]

theorem significantSections_eq (d : Document) :
    d.significantSections = d.significantNames.map fun name => ⟨name, d.entries name⟩ := by
  rw [significantSections, List.filter_map]
  rfl

theorem names_significantSections (d : Document) :
    d.significantSections.map (·.name) = d.significantNames := by
  rw [significantSections_eq, List.map_map]
  exact List.map_id _

theorem contentEq_iff_eq {a b : Document} :
    a.contentEq b = true ↔
      a.significantSections = b.significantSections ∧ a.interfaces = b.interfaces := by
  rw [contentEq, Bool.and_eq_true, beq_iff_eq, beq_iff_eq]

theorem contentEq_symm {a b : Document} (h : a.contentEq b = true) : b.contentEq a = true := by
  rw [contentEq_iff_eq] at h ⊢
  exact ⟨h.1.symm, h.2.symm⟩

theorem contentEq_trans {a b c : Document} (hab : a.contentEq b = true)
    (hbc : b.contentEq c = true) : a.contentEq c = true := by
  rw [contentEq_iff_eq] at hab hbc ⊢
  exact ⟨hab.1.trans hbc.1, hab.2.trans hbc.2⟩

/-- Equal contents are the same names in the same order, with the same entries, and the same
interfaces. -/
theorem contentEq_iff {a b : Document} :
    a.contentEq b = true ↔ a.significantNames = b.significantNames ∧
      (∀ name ∈ b.significantNames, a.entries name = b.entries name) ∧
      a.interfaces = b.interfaces := by
  rw [contentEq_iff_eq, ← and_assoc]
  refine and_congr_left fun _ => ⟨fun h => ?_, fun ⟨hnames, hentries⟩ => ?_⟩
  · have hnames : a.significantNames = b.significantNames := by
      rw [← names_significantSections, h, names_significantSections]
    refine ⟨hnames, fun name hname => ?_⟩
    rw [significantSections_eq, significantSections_eq, hnames] at h
    have hsection := List.map_inj_left.mp h name hname
    exact congrArg Section.entries hsection
  · rw [significantSections_eq, significantSections_eq, hnames]
    exact List.map_congr_left fun name hname => by rw [hentries name hname]

def shownBlocks (d : Document) (name : Text) : List (List Text) :=
  d.sectionBlock name ::
    if name = interfacesSection then d.interfaces.mapIdx fun k i => i.block k else []

/-- The lines of the sections with the names, as if all of them showed. -/
def shownLines (d : Document) (names : List Text) : List Text :=
  (names.flatMap d.shownBlocks).flatten

@[simp] theorem shownLines_nil (d : Document) : d.shownLines [] = [] := rfl

theorem shownLines_append (d : Document) (names more : List Text) :
    d.shownLines (names ++ more) = d.shownLines names ++ d.shownLines more := by
  rw [shownLines, List.flatMap_append, List.flatten_append, shownLines, shownLines]

theorem shownLines_cons (d : Document) (name : Text) (names : List Text) :
    d.shownLines (name :: names) = (d.shownBlocks name).flatten ++ d.shownLines names := by
  rw [shownLines, List.flatMap_cons, List.flatten_append, shownLines]

theorem blocksOf_eq (d : Document) (name : Text) :
    d.blocksOf name = if d.shows name then d.shownBlocks name else [] := by
  by_cases hinterfaces : name = interfacesSection
  · have hshows : d.shows name = true := by
      simp [shows, reservedSections, hinterfaces]
    rw [blocksOf, if_pos hinterfaces, if_pos hshows, shownBlocks, if_pos hinterfaces]
  · have hshows : d.shows name =
        !((d.entries name).isEmpty && name != rootSection && name != loggingSection) := by
      simp [shows, reservedSections, hinterfaces, bne, Bool.or_assoc, beq_eq_decide]
    rw [blocksOf, if_neg hinterfaces, hshows, shownBlocks, if_neg hinterfaces]
    cases (d.entries name).isEmpty && name != rootSection && name != loggingSection <;> rfl

theorem mem_shownBlocks {d : Document} {name : Text} {block : List Text}
    (h : block ∈ d.shownBlocks name) :
    block = d.sectionBlock name ∨ ∃ i ∈ d.interfaces, ∃ k, block = i.block k := by
  rcases List.mem_cons.mp h with h | h
  · exact .inl h
  · split at h
    next =>
      obtain ⟨k, hk, rfl⟩ := List.mem_mapIdx.mp h
      exact .inr ⟨_, List.getElem_mem hk, k, rfl⟩
    next => cases h

theorem mem_blocks {d : Document} {block : List Text} (h : block ∈ d.blocks) :
    ∃ name ∈ d.writingOrder, block ∈ d.shownBlocks name := by
  obtain ⟨name, hname, hblock⟩ := List.mem_flatMap.mp h
  rw [blocksOf_eq] at hblock
  split at hblock
  next => exact ⟨name, hname, hblock⟩
  next => cases hblock

theorem blocks_ne_nil (d : Document) : ∀ block ∈ d.blocks, block ≠ [] := by
  intro block hblock
  obtain ⟨name, -, hblock⟩ := mem_blocks hblock
  rcases mem_shownBlocks hblock with rfl | ⟨i, -, k, rfl⟩
  · exact List.cons_ne_nil _ _
  · exact List.cons_ne_nil _ _

theorem blocks_eq {d : Document} (h : ∀ name ∈ reservedSections, name ∈ d.order) :
    d.blocks = d.significantNames.flatMap d.shownBlocks := by
  have horder : d.writingOrder = d.order := by
    have hnone : reservedSections.filter (!d.order.contains ·) = [] := by
      simpa using h
    rw [writingOrder, hnone, List.append_nil]
  rw [blocks, horder, significantNames]
  induction d.order with
  | nil => rfl
  | cons name names ih =>
    rw [List.flatMap_cons, ih, blocksOf_eq, List.filter_cons]
    split <;> simp

/-- Documents with the same entries write the sections alike that hold no interfaces. -/
theorem flatMap_shownBlocks_congr {d e : Document} (h : ∀ name, e.entries name = d.entries name)
    {names : List Text} (hnames : interfacesSection ∉ names) :
    names.flatMap e.shownBlocks = names.flatMap d.shownBlocks := by
  apply List.flatMap_congr
  intro name hname
  have hother : name ≠ interfacesSection := fun heq => hnames (heq ▸ hname)
  rw [shownBlocks, shownBlocks, if_neg hother, if_neg hother, sectionBlock, sectionBlock, h]

/-- The sections that show are some, then that of the interfaces, and then others. -/
structure Splits (d : Document) (before after : List Text) : Prop where
  names : d.significantNames = before ++ [interfacesSection] ++ after
  before_other : interfacesSection ∉ before
  after_other : interfacesSection ∉ after

theorem exists_splits {d : Document} (hlisted : interfacesSection ∈ d.significantNames)
    (hnodup : d.significantNames.Nodup) : ∃ before after, d.Splits before after := by
  obtain ⟨before, after, hsplit⟩ := List.append_of_mem hlisted
  rw [hsplit, List.nodup_middle, List.nodup_cons, List.mem_append, not_or] at hnodup
  exact ⟨before, after, by rw [hsplit, List.append_cons], hnodup.1.1, hnodup.1.2⟩

theorem Splits.blocks_of_sections_eq {d : Document} {before after : List Text}
    (h : d.Splits before after) (hreserved : ∀ name ∈ reservedSections, name ∈ d.order)
    (e : Document) (hsections : e.sections = d.sections) (horder : e.order = d.order) :
    e.blocks = before.flatMap d.shownBlocks ++
      (e.shownBlocks interfacesSection ++ after.flatMap d.shownBlocks) := by
  have hentries (name : Text) : e.entries name = d.entries name := by
    rw [entries, hsections, entries]
  have hnames : e.significantNames = before ++ [interfacesSection] ++ after := by
    have hshows : e.shows = d.shows := funext fun name => by rw [shows, hentries, shows]
    rw [← h.names, significantNames, hshows, horder, significantNames]
  rw [blocks_eq (horder ▸ hreserved), hnames, List.flatMap_append, List.flatMap_append,
    flatMap_shownBlocks_congr hentries h.before_other,
    flatMap_shownBlocks_congr hentries h.after_other, List.flatMap_singleton, List.append_assoc]

/-- Documents with equal contents are written alike. -/
theorem write_eq_of_contentEq {a b : Document} (h : a.contentEq b = true)
    (ha : ∀ name ∈ reservedSections, name ∈ a.order)
    (hb : ∀ name ∈ reservedSections, name ∈ b.order) : a.write = b.write := by
  obtain ⟨hnames, hentries, hinterfaces⟩ := contentEq_iff.mp h
  have hblocks : a.blocks = b.blocks := by
    rw [blocks_eq ha, blocks_eq hb, hnames]
    apply List.flatMap_congr
    intro name hname
    rw [shownBlocks, shownBlocks, sectionBlock, sectionBlock, hentries name hname, hinterfaces]
  rw [write, write, hblocks]

/-- The document with counted names in place of the blank ones of its interfaces. -/
def fillNames (d : Document) : Document :=
  { d with slots := d.slots.mapIdx fun k s => { s with interface := s.interface.fillName k } }

theorem interfaces_fillNames (d : Document) :
    d.fillNames.interfaces = d.interfaces.mapIdx fun k i => i.fillName k := by
  apply List.ext_getElem
  · simp [fillNames, interfaces]
  · intro k hk hk'
    simp [fillNames, interfaces]

/-- The names that are filled in are those that are written. -/
theorem write_fillNames (d : Document) : d.fillNames.write = d.write := by
  have hblocksOf : d.fillNames.blocksOf = d.blocksOf := by
    funext name
    rw [blocksOf, blocksOf, interfaces_fillNames, List.mapIdx_mapIdx]
    simp only [Function.comp_def, Interface.block_fillName]
    rfl
  rw [write, write, blocks, blocks, hblocksOf]
  rfl

end Document

/-- What a function of the positions makes of a list in which one element is changed. -/
theorem mapIdx_modify {α β : Type*} (f : Nat → α → β) {l : List α} {n : Nat} {a : α}
    (h : l[n]? = some a) (g : α → α) :
    (l.modify n g).mapIdx f = (l.take n).mapIdx f ++
      f n (g a) :: (l.drop (n + 1)).mapIdx fun k => f (k + (n + 1)) := by
  obtain ⟨hn, rfl⟩ := List.getElem?_eq_some_iff.mp h
  have hlength : (l.take n).length = n := List.length_take_of_le hn.le
  rw [List.modify_eq_take_cons_drop hn, List.mapIdx_append, List.mapIdx_cons, hlength]
  simp only [Nat.zero_add, Nat.add_assoc, Nat.add_comm 1]

namespace Document

def linesOf (blocks : List (List Text)) : List Text :=
  blocks.flatMap fun block => block.flatMap lines ++ [[]]

def linesAround (before after : List (List Text)) (block : List Text) : List Text :=
  linesOf before ++ block ++ [] :: linesOf after

theorem linesOf_eq_linesAround (before after : List (List Text)) (block : List Text) :
    linesOf (before ++ block :: after) = linesAround before after (block.flatMap lines) := by
  rw [linesOf, List.flatMap_append, List.flatMap_cons, List.append_assoc, ← List.append_assoc]
  rfl

theorem interfacesSection_mem_writingOrder (d : Document) :
    interfacesSection ∈ d.writingOrder := by
  by_cases h : interfacesSection ∈ d.order
  · exact List.mem_append_left _ h
  · refine List.mem_append_right _ (List.mem_filter.mpr ⟨by decide, ?_⟩)
    simpa using h

theorem blocks_not_empty (d : Document) : d.blocks ≠ [] := by
  refine List.ne_nil_of_mem (a := d.sectionBlock interfacesSection) ?_
  refine List.mem_flatMap.mpr ⟨interfacesSection, d.interfacesSection_mem_writingOrder, ?_⟩
  rw [blocksOf, if_pos rfl]
  exact List.mem_cons_self

theorem lines_write (d : Document) : lines d.write = linesOf d.blocks :=
  lines_join_blocks d.blocks_not_empty d.blocks_ne_nil

theorem updateAt_self (d : Document) (position : Nat) : d.updateAt position (fun i => i) = d :=
  congrArg (fun slots => { d with slots }) (List.modify_id position d.slots)

/-- The blocks from that of the interfaces' own section to that of the interface in front of a
position. -/
def blocksTo (d : Document) (position : Nat) : List (List Text) :=
  d.sectionBlock interfacesSection :: (d.interfaces.take position).mapIdx fun k i => i.block k

/-- The blocks around that of an interface stay as they are, whatever becomes of the interface. -/
theorem exists_blocks_updateAt {d : Document} (hnodup : d.order.Nodup)
    (hreserved : ∀ name ∈ reservedSections, name ∈ d.order) {position : Nat} {i : Interface}
    (hi : d.interfaces[position]? = some i) :
    ∃ above after, ∀ edit : Interface → Interface, (d.updateAt position edit).blocks =
      above ++ d.blocksTo position ++ (edit i).block position :: after := by
  have hlisted : interfacesSection ∈ d.significantNames :=
    mem_significantNames.mpr ⟨hreserved _ (by decide), .inr (by decide)⟩
  obtain ⟨above, below, hsplit⟩ := exists_splits hlisted (hnodup.filter _)
  refine ⟨above.flatMap d.shownBlocks,
    ((d.interfaces.drop (position + 1)).mapIdx fun k i => i.block (k + (position + 1))) ++
      below.flatMap d.shownBlocks, fun edit => ?_⟩
  have hinterfaces : (d.updateAt position edit).shownBlocks interfacesSection =
      d.sectionBlock interfacesSection :: (d.interfaces.modify position edit).mapIdx
        fun k i => i.block k := by
    rw [shownBlocks, if_pos rfl, interfaces_updateAt]
    rfl
  rw [hsplit.blocks_of_sections_eq hreserved (d.updateAt position edit) rfl rfl, hinterfaces,
    mapIdx_modify _ hi, blocksTo]
  simp

end Document

end GatewayConfig
