import GatewayConfig.Proofs.Document.Reload
import GatewayConfig.Proofs.Document.StandingAlone

/-! # One more block

An interface that is appended to a document is written behind the others, before the sections
that follow. Main statement: its block leaves the rest of a reloadable document as it is if it
stands alone, and only then unless its name breaks the header line.
-/

namespace GatewayConfig
open Text

/-- The document has one interface more than another and is otherwise what the text of the other
shows. -/
structure Document.ExtendsByOne (e d : Document) : Prop where
  interfaces : ∃ i, e.interfaces = d.interfaces ++ [i]
  entries : ∀ name, e.entries name = if name ∈ d.order then d.entries name else []

namespace Reading
open Document

/-- Sections other than that of the interfaces add their entries behind those that are there. -/
theorem through_otherSections (r : Reading) {d : Document} (hd : d.Legible) {names : List Text}
    (hnodup : names.Nodup)
    (hnames : ∀ name ∈ names, name ∈ d.significantNames ∧ name ≠ interfacesSection) :
    (r.through (d.shownLines names)).interfaces = r.interfaces ∧
      ∀ other, (r.through (d.shownLines names)).document.entries other =
        r.document.entries other ++ if other ∈ names then d.entries other else [] := by
  induction names generalizing r with
  | nil => simp
  | cons name names ih =>
    obtain ⟨hname, hnodup⟩ := List.nodup_cons.mp hnodup
    obtain ⟨⟨hshows, hother⟩, hnames⟩ := List.forall_mem_cons.mp hnames
    obtain ⟨place, -, hthrough⟩ := r.through_shownBlocks hd hshows
    obtain ⟨hinterfaces, hentries⟩ := ih
      ⟨place, r.document.editSection name (· ++ d.entries name), r.interfaces⟩ hnodup hnames
    rw [if_neg hother, List.append_nil] at hthrough
    rw [shownLines_cons, through_append, hthrough]
    refine ⟨hinterfaces, fun other => ?_⟩
    rw [hentries, entries_editSection]
    by_cases h : other = name
    · simp [h, hname]
    · simp [h]

end Reading

namespace Document
open Reading

theorem shownBlocks_append (d : Document) (s : Slot) (name : Text) :
    (d.append s).shownBlocks name = d.shownBlocks name ++
      if name = interfacesSection then [s.interface.block d.interfaces.length] else [] := by
  rw [shownBlocks, shownBlocks, interfaces_append]
  split
  next => simp [List.mapIdx_append, sectionBlock, append, entries]
  next => simp [sectionBlock, append, entries]

theorem Legible.exists_splits {d : Document} (h : d.Legible) :
    ∃ before after, d.Splits before after :=
  Document.exists_splits (h.reserved_listed interfacesSection (by decide)) h.names_nodup

namespace Splits

variable {d : Document} {before after : List Text}

theorem mem_iff (h : d.Splits before after) {name : Text} :
    name ∈ d.significantNames ↔ name ∈ before ++ [interfacesSection] ∨ name ∈ after := by
  rw [h.names, List.mem_append]

theorem nodup (h : d.Splits before after) (hd : d.Legible) :
    (before ++ [interfacesSection]).Nodup ∧ after.Nodup ∧
      ∀ name ∈ before ++ [interfacesSection], name ∉ after := by
  have hnodup := hd.names_nodup
  rw [h.names, List.nodup_append] at hnodup
  exact ⟨hnodup.1, hnodup.2.1, fun name hname hafter => hnodup.2.2 name hname name hafter rfl⟩

/-- The block of the new interface stands behind the others, before the sections that follow. -/
theorem blocks_append (h : d.Splits before after) (hd : d.Legible) (s : Slot) :
    (d.append s).blocks = (before ++ [interfacesSection]).flatMap d.shownBlocks ++
      s.interface.block d.interfaces.length :: after.flatMap d.shownBlocks := by
  rw [h.blocks_of_sections_eq hd.reserved_in_order (d.append s) rfl rfl, shownBlocks_append,
    if_pos rfl]
  simp

theorem ofText_write_append (h : d.Splits before after) (hd : d.Legible) (s : Slot) :
    ofText (d.append s).write =
      ((start.through (d.shownLines (before ++ [interfacesSection]))).through
        (s.interface.blockLines d.interfaces.length)).through (d.shownLines after) := by
  rw [ofText_write, h.blocks_append hd, List.append_cons, through_lines_append,
    through_lines_append, List.flatten_singleton, ← shownLines, ← shownLines,
    hd.flatMap_lines_shownLines fun _ hname => h.mem_iff.mpr (.inl hname),
    hd.flatMap_lines_shownLines fun _ hname => h.mem_iff.mpr (.inr hname), Interface.blockLines]

/-- What is read of the appended document is what the new block leaves and the entries of the
sections that follow. -/
theorem read_append (h : d.Splits before after) (hd : d.Legible) (s : Slot) (firstId : Nat)
    {r : Reading} (hr : r = (start.through (d.shownLines (before ++ [interfacesSection]))).through
      (s.interface.blockLines d.interfaces.length)) :
    (read (d.append s).write firstId).interfaces = r.interfaces ∧
      ∀ name, (read (d.append s).write firstId).entries name =
        r.document.entries name ++ if name ∈ after then d.entries name else [] := by
  obtain ⟨hinterfaces, hentries⟩ := r.through_otherSections hd (h.nodup hd).2.1 fun name hname =>
    ⟨h.mem_iff.mpr (.inr hname), fun heq => h.after_other (heq ▸ hname)⟩
  rw [interfaces_read, h.ofText_write_append hd, ← hr]
  refine ⟨hinterfaces, fun name => ?_⟩
  rw [entries_read, h.ofText_write_append hd, ← hr, hentries]

end Splits

structure Surrounds (d : Document) (base : Reading) (rest : Text → List Entry) : Prop where
  allows : base.place.allowsInterface = true
  interfaces : base.interfaces = d.fillNames.interfaces
  entries : ∀ name, base.document.entries name ++ rest name =
    if name ∈ d.order then d.entries name else []

theorem Splits.surrounds {d : Document} {before after : List Text} (h : d.Splits before after)
    (hd : d.Legible) :
    d.Surrounds (start.through (d.shownLines (before ++ [interfacesSection])))
      fun name => if name ∈ after then d.entries name else [] := by
  obtain ⟨hnodup, -, hdisjoint⟩ := h.nodup hd
  have hrestores : (start.through (d.shownLines (before ++ [interfacesSection]))).Restores d
      (before ++ [interfacesSection]) :=
    (restores_start d).run hd hnodup fun _ hname => h.mem_iff.mpr (.inl hname)
  have hlisted {name : Text} (hname : name ∈ before ++ [interfacesSection] ∨ name ∈ after) :
      name ∈ d.order :=
    (mem_significantNames.mp (h.mem_iff.mpr hname)).1
  refine ⟨?_, hrestores.interfaces.trans (if_pos (by simp)), fun name => ?_⟩
  · have hshows : interfacesSection ∈ d.significantNames := h.mem_iff.mpr (.inl (by simp))
    obtain ⟨place, hplace, hthrough⟩ :=
      (start.through (d.shownLines before)).through_shownBlocks hd hshows
    rw [shownLines_append, through_append, shownLines_cons, shownLines_nil, List.append_nil,
      hthrough]
    exact hplace rfl
  · rw [hrestores.entries]
    by_cases hbefore : name ∈ before ++ [interfacesSection]
    · rw [if_pos hbefore, if_neg (hdisjoint name hbefore), if_pos (hlisted (.inl hbefore)),
        List.append_nil]
    · rw [if_neg hbefore, List.nil_append]
      by_cases hafter : name ∈ after
      · rw [if_pos hafter, if_pos (hlisted (.inr hafter))]
      · -- A listed name that does not show has no entries.
        rw [if_neg hafter, eq_comm, ite_eq_right_iff]
        intro horder
        by_contra hentries
        have hshows := h.mem_iff.mp (mem_significantNames.mpr ⟨horder, .inl hentries⟩)
        exact hshows.elim hbefore hafter

/-- Behind what surrounds it, a block that is read as it is alone adds one interface and nothing
else exactly if that is what it is alone. -/
theorem Surrounds.extendsByOne_iff {d : Document} {base : Reading} {rest : Text → List Entry}
    (h : d.Surrounds base rest) (hfill : d.fillNames.interfaces = d.interfaces)
    {alone r : Reading} (hbeside : Beside base alone r) {e : Document}
    (hinterfaces : e.interfaces = r.interfaces)
    (hentries : ∀ name, e.entries name = r.document.entries name ++ rest name) :
    e.ExtendsByOne d ↔
      alone.interfaces.length = 1 ∧ ∀ name, alone.document.entries name = [] := by
  rw [hbeside.interfaces, h.interfaces, hfill] at hinterfaces
  constructor
  · rintro ⟨⟨i, hi⟩, hall⟩
    rw [hinterfaces] at hi
    refine ⟨by rw [List.append_cancel_left hi, List.length_singleton], fun name => ?_⟩
    have hlength := congrArg List.length (h.entries name)
    rw [← hall, hentries, hbeside.entries] at hlength
    simp only [List.length_append] at hlength
    exact List.eq_nil_of_length_eq_zero (by omega)
  · rintro ⟨hone, hnone⟩
    obtain ⟨i, hi⟩ := List.length_eq_one_iff.mp hone
    refine ⟨⟨i, hinterfaces.trans (by rw [hi])⟩, fun name => ?_⟩
    rw [hentries, hbeside.entries, hnone, List.append_nil, h.entries]

/-- Where a block is read behind the others as it is alone, it leaves the rest of a reloadable
document as it is exactly if it stands alone. -/
theorem Reloadable.extendsByOne_iff {d : Document} (h : d.Reloadable) (s : Slot) (firstId : Nat)
    (hbeside : ∀ base : Reading, base.place.allowsInterface = true →
      Beside base (underHeader.through (s.interface.blockLines d.interfaces.length))
        (base.through (s.interface.blockLines d.interfaces.length))) :
    (read (d.append s).write firstId).ExtendsByOne d ↔
      s.interface.StandsAlone d.interfaces.length := by
  obtain ⟨before, after, hsplit⟩ := h.legible.exists_splits
  have hsurrounds := hsplit.surrounds h.legible
  obtain ⟨hinterfaces, hentries⟩ := hsplit.read_append h.legible s firstId rfl
  rw [Interface.standsAlone_iff]
  exact hsurrounds.extendsByOne_iff h.interfaces_fillNames (hbeside _ hsurrounds.allows)
    hinterfaces hentries

/-- A block that stands alone leaves the rest of a reloadable document as it is. -/
theorem Reloadable.extendsByOne_of_standsAlone {d : Document} (h : d.Reloadable) {s : Slot}
    (halone : s.interface.StandsAlone d.interfaces.length) (firstId : Nat) :
    (read (d.append s).write firstId).ExtendsByOne d := by
  obtain ⟨hone, hnone⟩ := Interface.standsAlone_iff.mp halone
  have hopen := List.ne_nil_of_length_eq_add_one hone
  exact (h.extendsByOne_iff s firstId fun _ hplace =>
    beside_through_of_no_entries hplace hopen hnone).mpr halone

/-- A block that leaves the rest as it is stands alone, unless its name breaks its header line. -/
theorem Reloadable.standsAlone_of_extendsByOne {d : Document} (h : d.Reloadable) {s : Slot}
    (hname : '\n' ∉ s.interface.name) {firstId : Nat}
    (hextends : (read (d.append s).write firstId).ExtendsByOne d) :
    s.interface.StandsAlone d.interfaces.length :=
  (h.extendsByOne_iff s firstId fun _ hplace =>
    Interface.beside_blockLines hplace hname _).mp hextends

end Document

end GatewayConfig
