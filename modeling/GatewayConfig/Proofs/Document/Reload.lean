import GatewayConfig.Proofs.Document.Blocks
import GatewayConfig.Proofs.Document.Content

/-! # Writing a document and reading it again

The blocks of a legible document are read one after the other, each into the section or the
interface that it was written for. All comes back but blank interface names, which are counted
ones from then on. Since every text reads as a legible document, writing settles after one round,
and a document that comes back as it was is legible.
-/

namespace GatewayConfig
namespace Document

/-- Sections that their lines give back. A section that does not show may have any name. -/
structure LegibleSections (d : Document) : Prop where
  names_nodup : d.significantNames.Nodup
  reserved_listed : ∀ name ∈ reservedSections, name ∈ d.significantNames
  names_writable : ∀ name ∈ d.significantNames, name ∉ reservedSections → WritableName name
  entries_writable : ∀ name ∈ d.order, ∀ e ∈ d.entries name, e.Writable

/-- A document that its lines give back up to blank interface names. -/
structure Legible (d : Document) : Prop extends d.LegibleSections where
  interfaces_tidy : ∀ i ∈ d.interfaces, i.Tidy

/-- A document that its lines give back. -/
structure Reloadable (d : Document) : Prop extends d.LegibleSections where
  interfaces_writable : ∀ i ∈ d.interfaces, i.Writable

theorem Reloadable.legible {d : Document} (h : d.Reloadable) : d.Legible where
  toLegibleSections := h.toLegibleSections
  interfaces_tidy := fun i hi => (h.interfaces_writable i hi).toTidy

theorem Tidy.legible {d : Document} (h : d.Tidy) : d.Legible where
  names_nodup := h.order_nodup.filter _
  reserved_listed := fun name hname =>
    mem_significantNames.mpr ⟨h.reserved_listed name hname, .inr hname⟩
  names_writable := fun name hname _ => h.names_writable name (mem_significantNames.mp hname).1
  entries_writable := fun name _ => h.entries_writable name
  interfaces_tidy := h.interfaces_tidy

namespace LegibleSections

theorem reserved_in_order {d : Document} (h : d.LegibleSections) :
    ∀ name ∈ reservedSections, name ∈ d.order :=
  fun name hname => (mem_significantNames.mp (h.reserved_listed name hname)).1

theorem writableName {d : Document} (h : d.LegibleSections) {name : Text}
    (hname : name ∈ d.significantNames) : WritableName name := by
  by_cases hreserved : name ∈ reservedSections
  · exact .of_reserved hreserved
  · exact h.names_writable name hname hreserved

end LegibleSections

end Document

/-- The reading has come to the sections of the document with the given names, and to its
interfaces if their section is among them. -/
structure Reading.Restores (r : Reading) (d : Document) (names : List Text) : Prop where
  order : r.document.order = names
  entries : ∀ name, r.document.entries name = if name ∈ names then d.entries name else []
  interfaces : r.interfaces = if interfacesSection ∈ names then d.fillNames.interfaces else []

namespace Reading
open Document

theorem restores_start (d : Document) : start.Restores d [] where
  order := rfl
  entries := fun _ => rfl
  interfaces := rfl

/-- The interfaces' blocks, if there are any, leave the sections as their own block left them. After
them one more interface may follow. -/
theorem through_shownBlocks (r : Reading) {d : Document} (hd : d.Legible) {name : Text}
    (hname : name ∈ d.significantNames) :
    ∃ place : Place, (name = interfacesSection → place.allowsInterface = true) ∧
      r.through (d.shownBlocks name).flatten =
        ⟨place, r.document.editSection name (· ++ d.entries name),
          r.interfaces ++ if name = interfacesSection then d.fillNames.interfaces else []⟩ := by
  have hentries := hd.entries_writable name (mem_significantNames.mp hname).1
  rw [shownBlocks, List.flatten_cons, through_append,
    through_sectionBlock r d (hd.writableName hname) hentries]
  by_cases hinterfaces : name = interfacesSection
  · obtain ⟨place, hplace, hblocks⟩ := through_interfaceBlocks
      ⟨.inSection name, r.document.editSection name (· ++ d.entries name), r.interfaces⟩
      (by simp [Place.allowsInterface, hinterfaces]) hd.interfaces_tidy 0
    simp only [Nat.zero_add] at hblocks
    rw [if_pos hinterfaces, if_pos hinterfaces, interfaces_fillNames]
    exact ⟨place, fun _ => hplace, hblocks⟩
  · rw [if_neg hinterfaces, if_neg hinterfaces, List.append_nil]
    exact ⟨_, fun h => absurd h hinterfaces, rfl⟩

/-- The blocks of one more section restore it. -/
theorem Restores.step {r : Reading} {d : Document} {names : List Text} (h : r.Restores d names)
    (hd : d.Legible) {name : Text} (hname : name ∈ d.significantNames) (hnew : name ∉ names) :
    (r.through (d.shownBlocks name).flatten).Restores d (names ++ [name]) := by
  obtain ⟨place, -, hthrough⟩ := r.through_shownBlocks hd hname
  rw [hthrough]
  constructor
  · rw [order_editSection, h.order, if_neg hnew]
  · intro other
    rw [entries_editSection, h.entries, h.entries, if_neg hnew]
    by_cases hother : other = name
    · simp [hother]
    · simp [hother]
  · rw [h.interfaces]
    by_cases hinterfaces : name = interfacesSection
    · simp [← hinterfaces, hnew]
    · simp [hinterfaces, Ne.symm hinterfaces]

theorem Restores.run {r : Reading} {d : Document} {names rest : List Text}
    (h : r.Restores d names) (hd : d.Legible) (hnodup : (names ++ rest).Nodup)
    (hrest : ∀ name ∈ rest, name ∈ d.significantNames) :
    (r.through (d.shownLines rest)).Restores d (names ++ rest) := by
  induction rest generalizing r names with
  | nil => simpa using h
  | cons name rest ih =>
    obtain ⟨hname, hrest⟩ := List.forall_mem_cons.mp hrest
    have hnew : name ∉ names := fun hmem =>
      (List.nodup_append.mp hnodup).2.2 name hmem name List.mem_cons_self rfl
    rw [List.append_cons] at hnodup ⊢
    rw [shownLines_cons, through_append]
    exact ih (h.step hd hname hnew) hnodup hrest

end Reading

namespace Document
open Reading

/-- A document's text is read line by line, block after block. -/
theorem ofText_write (d : Document) :
    ofText d.write = start.through (d.blocks.flatten.flatMap Text.lines) := by
  rw [ofText_eq_through, write, through_lines_join _ d.blocks_ne_nil]

theorem Legible.shownBlocks_plain {d : Document} (h : d.Legible) {name : Text}
    (hname : name ∈ d.significantNames) : ∀ l ∈ (d.shownBlocks name).flatten, '\n' ∉ l := by
  intro l hl
  obtain ⟨block, hblock, hl⟩ := List.mem_flatten.mp hl
  rcases mem_shownBlocks hblock with rfl | ⟨i, hi, k, rfl⟩
  · rcases List.mem_cons.mp hl with rfl | hl
    · exact (h.writableName hname).header_no_newline
    · have hentries := h.entries_writable name (mem_significantNames.mp hname).1
      rw [Entries.lines_of_writable hentries] at hl
      obtain ⟨e, he, rfl⟩ := List.mem_map.mp hl
      exact (hentries e he).line_no_newline
  · exact (h.interfaces_tidy i hi).unbroken.block_no_newline k l hl

/-- No line of a section that shows is broken into several. -/
theorem Legible.flatMap_lines_shownLines {d : Document} (h : d.Legible) {names : List Text}
    (hnames : ∀ name ∈ names, name ∈ d.significantNames) :
    (d.shownLines names).flatMap Text.lines = d.shownLines names := by
  apply Text.flatMap_lines
  intro l hl
  obtain ⟨block, hblock, hl⟩ := List.mem_flatten.mp hl
  obtain ⟨name, hname, hblock⟩ := List.mem_flatMap.mp hblock
  exact h.shownBlocks_plain (hnames name hname) l (List.mem_flatten.mpr ⟨block, hblock, hl⟩)

theorem Legible.restores {d : Document} (h : d.Legible) :
    (ofText d.write).Restores d d.significantNames := by
  have hrun := (restores_start d).run h (by simpa using h.names_nodup) (fun _ => id)
  rw [List.nil_append] at hrun
  rw [ofText_write, blocks_eq h.reserved_in_order, ← shownLines,
    h.flatMap_lines_shownLines fun _ => id]
  exact hrun

theorem Legible.order_read_write {d : Document} (h : d.Legible) (firstId : Nat) :
    (read d.write firstId).order = d.significantNames := by
  have hnone : reservedSections.filter (!d.significantNames.contains ·) = [] := by
    simpa using h.reserved_listed
  rw [order_read, h.restores.order, hnone, List.append_nil]

theorem Legible.entries_read_write {d : Document} (h : d.Legible) (firstId : Nat) (name : Text) :
    (read d.write firstId).entries name =
      if name ∈ d.significantNames then d.entries name else [] := by
  rw [entries_read, h.restores.entries]

theorem Legible.interfaces_read_write {d : Document} (h : d.Legible) (firstId : Nat) :
    (read d.write firstId).interfaces = d.fillNames.interfaces := by
  rw [interfaces_read, h.restores.interfaces, if_pos (h.reserved_listed _ (by decide))]

/-- A legible document comes back with its blank interface names filled in. -/
theorem Legible.contentEq_read_write {d : Document} (h : d.Legible) (firstId : Nat) :
    (read d.write firstId).contentEq d.fillNames = true := by
  have hentries : ∀ name ∈ d.significantNames,
      (read d.write firstId).entries name = d.entries name := by
    intro name hname
    rw [h.entries_read_write, if_pos hname]
  refine contentEq_iff.mpr ⟨?_, hentries, h.interfaces_read_write firstId⟩
  show (read d.write firstId).significantNames = d.significantNames
  rw [significantNames, h.order_read_write, List.filter_eq_self]
  intro name hname
  rw [shows, hentries name hname]
  exact (List.mem_filter.mp hname).2

/-- What a legible document is written as does not change by being read and written. -/
theorem Legible.write_settles {d : Document} (h : d.Legible) (firstId : Nat) :
    (read d.write firstId).write = d.write := by
  have hwrite := write_eq_of_contentEq (h.contentEq_read_write firstId)
    (tidy_read _ _).reserved_listed h.reserved_in_order
  rw [write_fillNames] at hwrite
  exact hwrite

/-- What has the content of a tidy document is legible. -/
theorem Tidy.legible_of_contentEq {a b : Document} (h : a.Tidy) (hcontent : a.contentEq b = true) :
    b.Legible := by
  obtain ⟨hnames, hentries, hinterfaces⟩ := contentEq_iff.mp hcontent
  have ha := h.legible
  refine { names_nodup := hnames ▸ ha.names_nodup
           reserved_listed := hnames ▸ ha.reserved_listed
           names_writable := hnames ▸ ha.names_writable
           entries_writable := ?_
           interfaces_tidy := hinterfaces ▸ h.interfaces_tidy }
  intro name hname e he
  have hshown : name ∈ b.significantNames :=
    mem_significantNames.mpr ⟨hname, .inl (List.ne_nil_of_mem he)⟩
  rw [← hentries name hshown] at he
  exact h.entries_writable name e he

theorem Reloadable.interfaces_fillNames {d : Document} (h : d.Reloadable) :
    d.fillNames.interfaces = d.interfaces := by
  rw [Document.interfaces_fillNames]
  apply List.ext_getElem
  · simp
  · intro k hk hk'
    rw [List.getElem_mapIdx]
    exact Interface.Writable.fillName_eq_self (h.interfaces_writable _ (List.getElem_mem hk')) k

theorem Reloadable.contentEq_read_write {d : Document} (h : d.Reloadable) (firstId : Nat) :
    (read d.write firstId).contentEq d = true := by
  have hcontent := h.legible.contentEq_read_write firstId
  obtain ⟨hnames, hentries, hinterfaces⟩ := contentEq_iff.mp hcontent
  exact contentEq_iff.mpr ⟨hnames, hentries, hinterfaces.trans h.interfaces_fillNames⟩

/-- Legible documents are written alike exactly if they have the same content up to blank
interface names. -/
theorem Legible.contentEq_fillNames_iff {a b : Document} (ha : a.Legible) (hb : b.Legible) :
    a.fillNames.contentEq b.fillNames = true ↔ a.write = b.write := by
  constructor
  · intro h
    have hwrite := write_eq_of_contentEq h ha.reserved_in_order hb.reserved_in_order
    rwa [write_fillNames, write_fillNames] at hwrite
  · intro h
    have hcontent := ha.contentEq_read_write 0
    rw [h] at hcontent
    exact contentEq_trans (contentEq_symm hcontent) (hb.contentEq_read_write 0)

/-- The written form of a reloadable document tells its content and nothing else. -/
theorem Reloadable.contentEq_iff_write_eq {a b : Document} (ha : a.Reloadable)
    (hb : b.Reloadable) : a.contentEq b = true ↔ a.write = b.write := by
  rw [← ha.legible.contentEq_fillNames_iff hb.legible, contentEq_iff_eq, contentEq_iff_eq,
    ha.interfaces_fillNames, hb.interfaces_fillNames]
  rfl

/-- A document comes back as it was from its written form exactly when it is reloadable. -/
theorem contentEq_read_write_iff (d : Document) (firstId : Nat) :
    (read d.write firstId).contentEq d = true ↔ d.Reloadable := by
  constructor
  · intro h
    have hlegible := (tidy_read d.write firstId).legible_of_contentEq h
    have hback := (contentEq_iff.mp (hlegible.contentEq_read_write firstId)).2.2
    rw [(contentEq_iff.mp h).2.2, interfaces_fillNames] at hback
    refine { hlegible with interfaces_writable := fun i hi => ?_ }
    rw [hback] at hi
    obtain ⟨k, hk, rfl⟩ := List.mem_mapIdx.mp hi
    exact (hlegible.interfaces_tidy _ (List.getElem_mem hk)).fillName k
  · exact fun h => h.contentEq_read_write firstId

/-- Of two settings with one key, reading keeps the place of one and the value of the other. -/
example :
    let d := Document.empty.append ⟨⟨0⟩, { Interface.new "Roof".toList [] with
      settings := [⟨"mode".toList, "ap".toList⟩, ⟨"Mode".toList, "full".toList⟩] }⟩
    (read d.write 1).contentEq d = false := by
  decide +kernel

/-- Writing what was read settles after one round and loses nothing but blank interface names. -/
theorem write_read_write (t : Text) (firstId nextId : Nat) :
    (read (read t firstId).write nextId).write = (read t firstId).write ∧
      (read (read t firstId).write nextId).contentEq (read t firstId).fillNames = true := by
  have hlegible := (tidy_read t firstId).legible
  have hcontent := hlegible.contentEq_read_write nextId
  have hwrite := write_eq_of_contentEq hcontent (tidy_read _ _).reserved_listed
    (tidy_read t firstId).reserved_listed
  exact ⟨hwrite.trans (write_fillNames _), hcontent⟩

end Document

end GatewayConfig
