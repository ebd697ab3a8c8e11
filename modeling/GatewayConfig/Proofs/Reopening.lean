import GatewayConfig.Proofs.Coherence
import GatewayConfig.Proofs.Document.Reload

/-! # Reopening a document in the middle of a session

A document that is written and read again has new ids and has lost the sections that do not show.
Edits that tell interfaces by their positions can be made to both documents. Main statement: they
come to the same content and the same text, as long as they leave the lost sections alone.
-/

namespace GatewayConfig

/-- A change to a document that tells interfaces by their positions. Nothing changes if there is
no interface at a position. -/
inductive PlacedEdit
  | editSection (name : Text) (edit : EntriesEdit)
  | setGlobal (key value : Text)
  | addInterface (name type : Text)
  | removeInterface (position : Nat)
  | moveInterface (source target : Nat)
  | editInterface (position : Nat) (edit : InterfaceEdit)
  deriving DecidableEq, Repr

def PlacedEdit.sectionName? : PlacedEdit → Option Text
  | editSection name _ => some name
  | _ => none

def PlacedEdit.edit? (d : Document) : PlacedEdit → Option Edit
  | editSection name edit => some (.editSection name edit)
  | setGlobal key value => some (.setGlobal key value)
  | addInterface name type => some (.addInterface name type)
  | removeInterface position => d.ids[position]?.map .removeInterface
  | moveInterface source target => some (.moveInterface source target)
  | editInterface position edit => d.ids[position]?.map (.editInterface · edit)

namespace Session

def applyAt (s : Session) : PlacedEdit → Session
  | .editSection name edit => s.apply (.editSection name edit)
  | .setGlobal key value => s.apply (.setGlobal key value)
  | .addInterface name type => s.apply (.addInterface name type)
  | .removeInterface position => { s with document := s.document.removeAt position }
  | .moveInterface source target => s.apply (.moveInterface source target)
  | .editInterface position edit =>
    { s with document := s.document.updateAt position (InterfaceEdit.apply · edit) }

def runAt (s : Session) (edits : List PlacedEdit) : Session := edits.foldl applyAt s

/-- Where no id is used twice, an edit at a position is one by the id that is there. -/
theorem Numbered.applyAt_eq {s : Session} (h : s.Numbered) (edit : PlacedEdit) :
    s.applyAt edit = ((edit.edit? s.document).map s.apply).getD s := by
  cases edit with
  | editSection | setGlobal | addInterface | moveInterface => rfl
  | removeInterface position =>
    rw [applyAt, PlacedEdit.edit?, Document.ids, List.getElem?_map]
    cases hslot : s.document.slots[position]? with
    | none =>
      rw [Document.removeAt, List.eraseIdx_of_length_le (List.getElem?_eq_none_iff.mp hslot)]
      rfl
    | some slot =>
      have hindex := (Document.resolvesAt_of_getElem? h.ids_nodup hslot).index
      simp [Session.apply, Document.remove_eq, hindex]
  | editInterface position edit =>
    rw [applyAt, PlacedEdit.edit?, Document.ids, List.getElem?_map]
    cases hslot : s.document.slots[position]? with
    | none =>
      rw [Document.updateAt, List.modify_eq_self (List.getElem?_eq_none_iff.mp hslot)]
      rfl
    | some slot =>
      have hupdate := (Document.resolvesAt_of_getElem? h.ids_nodup hslot).update
      simp [Session.apply, hupdate]

theorem Numbered.exists_run_eq {s : Session} (h : s.Numbered) (edits : List PlacedEdit) :
    ∃ byId : List Edit, s.runAt edits = s.run byId := by
  induction edits generalizing s with
  | nil => exact ⟨[], rfl⟩
  | cons edit edits ih =>
    rw [runAt, List.foldl_cons, h.applyAt_eq]
    cases edit.edit? s.document with
    | none => exact ih h
    | some first =>
      obtain ⟨rest, hrest⟩ := ih (h.apply first)
      exact ⟨first :: rest, hrest⟩

end Session

namespace Document

/-- A section that is there without showing: it is not reserved and has no entries. -/
def Idle (d : Document) (name : Text) : Prop :=
  name ∉ reservedSections ∧ Sections.find? d.sections name = some []

instance (d : Document) : DecidablePred d.Idle :=
  fun name => inferInstanceAs
    (Decidable (name ∉ reservedSections ∧ Sections.find? d.sections name = some []))

variable {idle : Text → Prop} [DecidablePred idle] {kept reopened : Document}

/-- The second document is the first one up to ids and to the idle sections, which it has lost. -/
structure Mirrors (idle : Text → Prop) [DecidablePred idle] (kept reopened : Document) :
    Prop where
  order : reopened.order = kept.order.filter fun name => ¬idle name
  entries : ∀ name, ¬idle name → reopened.entries name = kept.entries name
  interfaces : reopened.interfaces = kept.interfaces
  idle_empty : ∀ name, idle name → kept.entries name = []
  reserved_listed : ∀ name ∈ reservedSections, name ∈ kept.order
  reserved_not_idle : ∀ name ∈ reservedSections, ¬idle name

namespace Mirrors

theorem editSection (h : Mirrors idle kept reopened) {name : Text} (hname : ¬idle name)
    (edit : List Entry → List Entry) :
    Mirrors idle (kept.editSection name edit) (reopened.editSection name edit) where
  order := by
    have hmem : name ∈ reopened.order ↔ name ∈ kept.order := by simp [h.order, hname]
    rw [order_editSection, order_editSection]
    by_cases hlisted : name ∈ kept.order
    · rw [if_pos hlisted, if_pos (hmem.mpr hlisted), h.order]
    · rw [if_neg hlisted, if_neg (mt hmem.mp hlisted), h.order, List.filter_append]
      simp [hname]
  entries := by
    intro other hother
    rw [entries_editSection, entries_editSection, h.entries name hname, h.entries other hother]
  interfaces := h.interfaces
  idle_empty := by
    intro other hother
    have hne : other ≠ name := fun heq => hname (heq ▸ hother)
    rw [entries_editSection, if_neg hne, h.idle_empty other hother]
  reserved_listed := fun other hother =>
    mem_order_editSection.mpr (.inl (h.reserved_listed other hother))
  reserved_not_idle := h.reserved_not_idle

/-- Edits of the interfaces are of no concern to the sections. -/
theorem of_interfaces_eq (h : Mirrors idle kept reopened) {slots slots' : List Slot}
    (hslots : slots'.map (·.interface) = slots.map (·.interface)) :
    Mirrors idle { kept with slots } { reopened with slots := slots' } :=
  { h with interfaces := hslots }

theorem contentEq (h : Mirrors idle kept reopened) : reopened.contentEq kept = true := by
  have hnames : reopened.significantNames = kept.significantNames := by
    rw [significantNames, significantNames, h.order, List.filter_filter]
    apply List.filter_congr
    intro name _
    by_cases hidle : idle name
    · have hreserved : name ∉ reservedSections := fun hmem => h.reserved_not_idle name hmem hidle
      simp [hidle, shows, h.idle_empty name hidle, hreserved]
    · simp [hidle, shows, h.entries name hidle]
  refine contentEq_iff.mpr ⟨hnames, fun name hname => h.entries name fun hidle => ?_, h.interfaces⟩
  rcases (mem_significantNames.mp hname).2 with hentries | hreserved
  · exact hentries (h.idle_empty name hidle)
  · exact h.reserved_not_idle name hreserved hidle

theorem write_eq (h : Mirrors idle kept reopened) : reopened.write = kept.write := by
  refine write_eq_of_contentEq h.contentEq (fun name hname => ?_) h.reserved_listed
  rw [h.order, List.mem_filter]
  exact ⟨h.reserved_listed name hname, by simpa using h.reserved_not_idle name hname⟩

end Mirrors

/-- A reloadable document comes back without its idle sections. -/
theorem Reloadable.mirrors {d : Document} (h : d.Reloadable) (hlists : d.ListsSections)
    (firstId : Nat) : Mirrors d.Idle d (read d.write firstId) := by
  have hlegible := h.legible
  have hshows (name : Text) (hname : name ∈ d.order) : d.shows name = true ↔ ¬d.Idle name := by
    obtain ⟨entries, hentries⟩ := Option.isSome_iff_exists.mp ((hlists name).mp hname)
    by_cases hreserved : name ∈ reservedSections
    · simp [shows, Idle, hreserved]
    · simp [shows, Idle, hreserved, Document.entries, hentries]
  refine { order := ?_, entries := fun name hidle => ?_, interfaces := ?_, idle_empty := ?_,
           reserved_listed := hlegible.reserved_in_order
           reserved_not_idle := fun name hname hidle => hidle.1 hname }
  · rw [hlegible.order_read_write, significantNames]
    apply List.filter_congr
    intro name hname
    rw [Bool.eq_iff_iff, hshows name hname, decide_eq_true_iff]
  · rw [hlegible.entries_read_write]
    split
    next => rfl
    next hname =>
      -- A name that does not show and is not idle is not listed, so there is no section.
      have hunlisted : name ∉ d.order := fun hmem =>
        hname (List.mem_filter.mpr ⟨hmem, (hshows name hmem).mpr hidle⟩)
      rw [hlists name, Option.not_isSome_iff_eq_none] at hunlisted
      rw [Document.entries, hunlisted]
      rfl
  · rw [hlegible.interfaces_read_write, h.interfaces_fillNames]
  · rintro name ⟨-, hempty⟩
    rw [Document.entries, hempty]
    rfl

end Document

namespace Session
open Document

variable {idle : Text → Prop} [DecidablePred idle]

theorem mirrors_applyAt {kept reopened : Session}
    (h : Mirrors idle kept.document reopened.document) {edit : PlacedEdit}
    (hedit : ∀ name ∈ edit.sectionName?, ¬idle name) :
    Mirrors idle (kept.applyAt edit).document (reopened.applyAt edit).document := by
  cases edit with
  | editSection name edit => exact h.editSection (hedit name rfl) _
  | setGlobal key value => exact h.editSection (h.reserved_not_idle rootSection (by decide)) _
  -- From here on only the interfaces change, and equal lists of them are edited alike.
  | addInterface name type =>
    have hinterfaces : (reopened.add (.new name type)).document.interfaces =
        (kept.add (.new name type)).document.interfaces := by
      rw [add, interfaces_append, add, interfaces_append, h.interfaces]
    exact h.of_interfaces_eq hinterfaces
  | removeInterface position =>
    have hinterfaces : (reopened.document.removeAt position).interfaces =
        (kept.document.removeAt position).interfaces := by
      rw [interfaces_removeAt, interfaces_removeAt, h.interfaces]
    exact h.of_interfaces_eq hinterfaces
  | moveInterface source target =>
    have hmoved : (reopened.document.move? source target).map interfaces =
        (kept.document.move? source target).map interfaces := by
      rw [interfaces_move?, interfaces_move?, h.interfaces]
    simp only [applyAt, apply]
    cases hkept : kept.document.move? source target with
    | none =>
      rw [hkept, Option.map_none, Option.map_eq_none_iff] at hmoved
      rw [hmoved]
      exact h
    | some d =>
      rw [hkept, Option.map_some, Option.map_eq_some_iff] at hmoved
      obtain ⟨d', hreopened, hinterfaces⟩ := hmoved
      rw [hreopened]
      obtain ⟨-, -, rfl⟩ := move?_eq_some_iff.mp hkept
      obtain ⟨-, -, rfl⟩ := move?_eq_some_iff.mp hreopened
      exact h.of_interfaces_eq hinterfaces
  | editInterface position edit =>
    have hinterfaces :
        (reopened.document.updateAt position (InterfaceEdit.apply · edit)).interfaces =
          (kept.document.updateAt position (InterfaceEdit.apply · edit)).interfaces := by
      rw [interfaces_updateAt, interfaces_updateAt, h.interfaces]
    exact h.of_interfaces_eq hinterfaces

theorem mirrors_runAt {kept reopened : Session}
    (h : Mirrors idle kept.document reopened.document) {edits : List PlacedEdit}
    (hedits : ∀ edit ∈ edits, ∀ name ∈ edit.sectionName?, ¬idle name) :
    Mirrors idle (kept.runAt edits).document (reopened.runAt edits).document := by
  induction edits generalizing kept reopened with
  | nil => exact h
  | cons edit edits ih =>
    obtain ⟨hedit, hedits⟩ := List.forall_mem_cons.mp hedits
    exact ih (mirrors_applyAt h hedit) hedits

/-- Edits come to the same, whether or not the document is written and read again before them. -/
theorem runAt_reopen {s : Session} (hlists : s.document.ListsSections)
    (hback : s.reopen.document.contentEq s.document = true) {edits : List PlacedEdit}
    (hedits : ∀ edit ∈ edits, ∀ name ∈ edit.sectionName?, ¬s.document.Idle name) :
    (s.reopen.runAt edits).document.contentEq (s.runAt edits).document = true ∧
      (s.reopen.runAt edits).document.write = (s.runAt edits).document.write := by
  have hreloadable := (contentEq_read_write_iff s.document s.nextId).mp hback
  have hmirrors : Mirrors s.document.Idle s.document s.reopen.document :=
    hreloadable.mirrors hlists s.nextId
  have hrun := mirrors_runAt hmirrors hedits
  exact ⟨hrun.contentEq, hrun.write_eq⟩

theorem runAt_reopen_emptied :
    let s := openText ("[peers]\nnorth = a\n[idle]\n[interfaces]\n[[Roof]]\nmode = ap\n" ++
      "[[Hall]]\n[reticulum]\n").toList 0
    let edits : List PlacedEdit := [.editSection "peers".toList (.erase "NORTH".toList),
      .editSection "more".toList (.erase "x".toList), .setGlobal "enable_transport".toList [],
      .editInterface 1 (.set "Type".toList "AutoInterface".toList), .moveInterface 1 0,
      .addInterface "Shed".toList [], .removeInterface 1, .editInterface 1 (.enable false),
      .editSection "peers".toList (.set "south".toList "b".toList), .removeInterface 7]
    s.document.ListsSections ∧ s.document.Idle "idle".toList ∧
      (s.reopen.runAt edits).document.contentEq (s.runAt edits).document = true ∧
      (s.reopen.runAt edits).document.write = (s.runAt edits).document.write := by
  intro s edits
  have hlists : s.document.ListsSections := (Opened.openText _ 0).coherent.lists_sections
  exact ⟨hlists, by decide +kernel,
    runAt_reopen hlists (by decide +kernel) (by decide +kernel)⟩

end Session

end GatewayConfig
