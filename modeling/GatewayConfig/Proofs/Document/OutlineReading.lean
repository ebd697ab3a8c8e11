import GatewayConfig.Proofs.Document.Outline
import GatewayConfig.Proofs.Document.Reading

/-! # The reader follows the outline

After any number of lines the reader's place, sections and interfaces are those of the outline of
the lines read so far. One more line keeps it so, whatever the line is.
-/

namespace GatewayConfig

namespace Outline

variable {ls : List Line} {l : Line}

/-- The place that the nearest header above the end of the lines leads to. -/
def place (ls : List Line) : Place :=
  match (header? ls ls.length).bind (ls[·]?) with
  | some (.sectionHeader name) => .inSection (sectionKey name)
  | some (.interfaceHeader _) => .inInterface
  | _ => .outside

theorem place_append :
    place (ls ++ [l]) = match l with
      | .sectionHeader name => .inSection (sectionKey name)
      | .malformedHeader => .outside
      | .interfaceHeader _ => if inInterfaces ls ls.length then .inInterface else place ls
      | _ => place ls := by
  have hlast : (ls ++ [l])[ls.length]? = some l := List.getElem?_concat_length
  have hkeep : (match (header? ls ls.length).bind ((ls ++ [l])[·]?) with
      | some (.sectionHeader name) => Place.inSection (sectionKey name)
      | some (.interfaceHeader _) => .inInterface
      | _ => .outside) = place ls := by
    rw [place]
    cases h : header? ls ls.length with
    | none => rfl
    | some j => simp only [Option.bind_some, List.getElem?_append_left (lt_of_nearest? h)]
  rw [place, header?_last, isHeader_last]
  cases l with
  | interfaceHeader label =>
    by_cases hin : inInterfaces ls ls.length = true
    · simp only [hin, if_true, Option.bind_some, hlast]
    · simp only [hin]
      exact hkeep
  | sectionHeader name => simp only [if_true, Option.bind_some, hlast]
  | malformedHeader => simp only [if_true, Option.bind_some, hlast]
  | blank => exact hkeep
  | comment => exact hkeep
  | entry key value => exact hkeep
  | unrecognized => exact hkeep

theorem isSectionBreak_last :
    isSectionBreak (ls ++ [l]) ls.length = match l with
      | .sectionHeader _ | .malformedHeader => true
      | _ => false := by
  rw [isSectionBreak, List.getElem?_concat_length]
  cases l <;> rfl

theorem inInterfaces_last :
    inInterfaces (ls ++ [l]) (ls ++ [l]).length = match l with
      | .sectionHeader name => sectionKey name == interfacesSection
      | .malformedHeader => false
      | _ => inInterfaces ls ls.length := by
  have hlast : (ls ++ [l])[ls.length]? = some l := List.getElem?_concat_length
  have hopen (h : isSectionBreak (ls ++ [l]) ls.length = true) :
      nearest? (isSectionBreak (ls ++ [l])) (ls ++ [l]).length = some ls.length := by
    rw [List.length_append, List.length_singleton, nearest?, if_pos h]
  have hkeep (h : isSectionBreak (ls ++ [l]) ls.length = false) :
      inInterfaces (ls ++ [l]) (ls ++ [l]).length = inInterfaces ls ls.length := by
    have hnearest : nearest? (isSectionBreak (ls ++ [l])) (ls ++ [l]).length =
        nearest? (isSectionBreak (ls ++ [l])) ls.length := by
      rw [List.length_append, List.length_singleton, nearest?, if_neg (by simp [h])]
    have hold := inInterfaces_append (l := l) (le_refl ls.length)
    rw [← hold]
    simp only [inInterfaces, hnearest]
  have hbreak := @isSectionBreak_last ls l
  cases l with
  | sectionHeader name => simp only [inInterfaces, hopen hbreak, Option.bind_some, hlast]
  | malformedHeader => simp only [inInterfaces, hopen hbreak, Option.bind_some, hlast]
  | interfaceHeader label => exact hkeep hbreak
  | blank => exact hkeep hbreak
  | comment => exact hkeep hbreak
  | entry key value => exact hkeep hbreak
  | unrecognized => exact hkeep hbreak

theorem entries_append (name : Text) :
    entries (ls ++ [l]) name = entries ls name ++ match l with
      | .entry key value =>
        if !key.isEmpty && (header? ls ls.length).any (isHeaderOf ls name) then [⟨key, value⟩]
        else []
      | _ => [] :=
  entriesUnder_append fun _ hj => isHeaderOf_append hj

theorem interface_append (header : Nat × Text) :
    interface (ls ++ [l]) header = match l with
      | .entry key value =>
        if !key.isEmpty && (header? ls ls.length).any (· == header.1) then
          (interface ls header).set key value
        else interface ls header
      | _ => interface ls header := by
  rw [interface, entriesUnder_append fun _ _ => rfl, List.foldl_append, interface]
  cases l with
  | entry key value =>
    simp only
    split <;> rfl
  | _ => rfl

theorem mem_interfaceHeaders {header : Nat × Text} (h : header ∈ interfaceHeaders ls) :
    header.1 < ls.length ∧ ls[header.1]? = some (.interfaceHeader header.2) := by
  obtain ⟨i, hi, hheader⟩ := List.mem_filterMap.mp h
  rw [interfaceHeader?] at hheader
  split at hheader
  next label hl =>
    split at hheader
    next =>
      cases hheader
      exact ⟨List.mem_range.mp hi, hl⟩
    next => cases hheader
  next => cases hheader

/-- The interface that the last lines belong to is the last one of all. -/
theorem interfaceHeaders_eq_concat {h : Nat} {label : Text} (hh : header? ls ls.length = some h)
    (hl : ls[h]? = some (.interfaceHeader label)) :
    ∃ before, interfaceHeaders ls = before ++ [(h, label)] ∧ ∀ q ∈ before, q.1 ≠ h := by
  induction ls using List.reverseRecOn with
  | nil => cases hh
  | append_singleton ls l ih =>
    rw [header?_last, isHeader_last] at hh
    rw [interfaceHeaders_append]
    have hkeep (hh : header? ls ls.length = some h) :
        ∃ before, interfaceHeaders ls = before ++ [(h, label)] ∧ ∀ q ∈ before, q.1 ≠ h :=
      ih hh (by rwa [List.getElem?_append_left (lt_of_nearest? hh)] at hl)
    cases l with
    | interfaceHeader title =>
      simp only at hh ⊢
      split at hh
      next hin =>
        cases hh
        rw [List.getElem?_concat_length] at hl
        cases hl
        refine ⟨interfaceHeaders ls, by rw [if_pos hin], fun q hq => ?_⟩
        have := (mem_interfaceHeaders hq).1
        omega
      next hin =>
        rw [if_neg hin, List.append_nil]
        exact hkeep hh
    | sectionHeader name =>
      cases hh
      rw [List.getElem?_concat_length] at hl
      cases hl
    | malformedHeader =>
      cases hh
      rw [List.getElem?_concat_length] at hl
      cases hl
    | blank => simpa using hkeep hh
    | comment => simpa using hkeep hh
    | entry key value => simpa using hkeep hh
    | unrecognized => simpa using hkeep hh

/-- The reader stands where the outline of the lines read so far says. -/
structure Agrees (ls : List Line) (r : Reading) : Prop where
  place : r.place = place ls
  allows : r.place.allowsInterface = inInterfaces ls ls.length
  entries : ∀ name, r.document.entries name = entries ls name
  order : r.document.order = (names ls).eraseDups
  interfaces : r.interfaces = interfaces ls

theorem agrees_start : Agrees [] Reading.start where
  place := rfl
  allows := rfl
  entries := fun _ => rfl
  order := rfl
  interfaces := rfl

theorem eraseDups_concat (names : List Text) (name : Text) :
    (names ++ [name]).eraseDups =
      if name ∈ names.eraseDups then names.eraseDups else names.eraseDups ++ [name] := by
  rw [List.eraseDups_append]
  by_cases h : name ∈ names
  · simp [h, List.removeAll]
  · simp [h, List.removeAll, List.eraseDups_cons]

theorem interface_of_length_le {header : Nat × Text} (h : ls.length ≤ header.1) :
    interface ls header = Interface.new (Text.trim header.2) [] := by
  have hnil : entriesUnder ls (· == header.1) = [] := by
    rw [entriesUnder, List.filterMap_eq_nil_iff]
    intro i hi
    rw [List.mem_range] at hi
    have hany : (header? ls i).any (· == header.1) = false := by
      cases hh : header? ls i with
      | none => rfl
      | some j =>
        have hj := lt_of_nearest? hh
        simp only [Option.any_some, beq_eq_false_iff_ne, ne_eq]
        omega
    rw [entryUnder?]
    split
    next => simp [hany]
    next => rfl
  rw [interface, hnil, List.foldl_nil]

theorem interfaces_append_of_not_entry (h : ∀ key value, l ≠ .entry key value) :
    interfaces (ls ++ [l]) = interfaces ls ++ match l with
      | .interfaceHeader label =>
        if inInterfaces ls ls.length then [Interface.new (Text.trim label) []] else []
      | _ => [] := by
  have hsame (header : Nat × Text) : interface (ls ++ [l]) header = interface ls header := by
    rw [interface_append]
    cases l with
    | entry key value => exact absurd rfl (h key value)
    | _ => rfl
  rw [interfaces, interfaceHeaders_append, List.map_append, List.map_congr_left fun q _ => hsame q,
    interfaces]
  congr 1
  cases l with
  | interfaceHeader label =>
    simp only
    split
    next => simp [hsame, interface_of_length_le]
    next => rfl
  | _ => rfl

theorem interfaces_append_entry (key value : Text) :
    interfaces (ls ++ [.entry key value]) = (interfaceHeaders ls).map fun header =>
      if !key.isEmpty && (header? ls ls.length).any (· == header.1) then
        (interface ls header).set key value
      else interface ls header := by
  rw [interfaces, interfaceHeaders_append, List.append_nil]
  exact List.map_congr_left fun header _ => interface_append header

/-- What the place says about the header that the next entry falls under. -/
theorem place_cases (ls : List Line) :
    (place ls = .outside ∧
      (∀ name, (header? ls ls.length).any (isHeaderOf ls name) = false) ∧
      ∀ header ∈ interfaceHeaders ls, (header? ls ls.length).any (· == header.1) = false) ∨
    (∃ name ∈ names ls, place ls = .inSection name ∧
      (∀ other, (header? ls ls.length).any (isHeaderOf ls other) = (name == other)) ∧
      ∀ header ∈ interfaceHeaders ls, (header? ls ls.length).any (· == header.1) = false) ∨
    (place ls = .inInterface ∧
      (∀ name, (header? ls ls.length).any (isHeaderOf ls name) = false) ∧
      ∃ before last, interfaceHeaders ls = before ++ [last] ∧
        (header? ls ls.length).any (· == last.1) = true ∧
        ∀ header ∈ before, (header? ls ls.length).any (· == header.1) = false) := by
  cases hh : header? ls ls.length with
  | none => exact .inl ⟨by rw [place, hh]; rfl, fun _ => rfl, fun _ _ => rfl⟩
  | some h =>
    -- No interface header stands where another line does.
    have hother (hl : ∀ label, ls[h]? ≠ some (.interfaceHeader label)) :
        ∀ header ∈ interfaceHeaders ls, (some h).any (· == header.1) = false := by
      intro header hheader
      have hlabel := (mem_interfaceHeaders hheader).2
      simp only [Option.any_some, beq_eq_false_iff_ne, ne_eq]
      rintro rfl
      exact hl _ hlabel
    have hplace : place ls = match ls[h]? with
        | some (.sectionHeader name) => .inSection (sectionKey name)
        | some (.interfaceHeader _) => .inInterface
        | _ => .outside := by
      rw [place, hh, Option.bind_some]
    have hsection (name : Text) : (some h).any (isHeaderOf ls name) = isHeaderOf ls name h := rfl
    simp only [isHeaderOf] at hsection
    cases hl : ls[h]? with
    | none =>
      simp only [hl] at hplace hsection
      exact .inl ⟨hplace, hsection, hother (by simp [hl])⟩
    | some l =>
      cases l with
      | sectionHeader title =>
        simp only [hl] at hplace hsection
        have hname : sectionKey title ∈ names ls :=
          List.mem_filterMap.mpr ⟨_, List.mem_of_getElem? hl, rfl⟩
        exact .inr (.inl ⟨_, hname, hplace, hsection, hother (by simp [hl])⟩)
      | interfaceHeader label =>
        simp only [hl] at hplace hsection
        obtain ⟨before, hbefore, hne⟩ := interfaceHeaders_eq_concat hh hl
        refine .inr (.inr ⟨hplace, hsection, before, (h, label), hbefore, by simp, ?_⟩)
        intro header hheader
        simpa using (hne header hheader).symm
      | _ =>
        simp only [hl] at hplace hsection
        exact .inl ⟨hplace, hsection, hother (by simp [hl])⟩

theorem agrees_enter {r : Reading} (h : Agrees ls r) {key value : Text} (hne : key ≠ [])
    (hkey : Text.trim key = key) (hvalue : Text.trim value = value) :
    Agrees (ls ++ [.entry key value]) (r.enter key value) := by
  have hplace : place (ls ++ [.entry key value]) = place ls := place_append
  have hin := @inInterfaces_last ls (.entry key value)
  have hnames : names (ls ++ [.entry key value]) = names ls := by rw [names_append, List.append_nil]
  have hentries (name : Text) := @entries_append ls (.entry key value) name
  have hinterfaces := @interfaces_append_entry ls key value
  have hempty : key.isEmpty = false := by simpa using hne
  simp only [hempty, Bool.not_false, Bool.true_and] at hentries hinterfaces
  have hkeep (hany : ∀ header ∈ interfaceHeaders ls,
      (header? ls ls.length).any (· == header.1) = false) :
      interfaces (ls ++ [.entry key value]) = interfaces ls := by
    rw [hinterfaces, interfaces]
    exact List.map_congr_left fun header hheader => by simp [hany header hheader]
  -- An entry belongs to nothing, to the section of the place, or to the last interface.
  rcases place_cases ls with ⟨hp, hsection, hinterface⟩ |
    ⟨name, hname, hp, hsection, hinterface⟩ | ⟨hp, hsection, before, last, hlist, hlast, hbefore⟩
  · have henter : r.enter key value = r := by rw [Reading.enter, h.place, hp]
    rw [henter]
    exact ⟨h.place.trans hplace.symm, h.allows.trans hin.symm,
      fun name => by rw [hentries, hsection, h.entries]; simp,
      by rw [hnames, h.order], by rw [hkeep hinterface, h.interfaces]⟩
  · have henter : r.enter key value =
        { r with document := r.document.editSection name (· ++ [⟨key, value⟩]) } := by
      rw [Reading.enter, h.place, hp]
    rw [henter]
    refine ⟨h.place.trans hplace.symm, h.allows.trans hin.symm, fun other => ?_, ?_,
      by rw [hkeep hinterface]; exact h.interfaces⟩
    · rw [hentries, hsection, Document.entries_editSection, h.entries, h.entries]
      by_cases hother : name = other
      · simp [hother]
      · simp [hother, Ne.symm hother]
    · rw [hnames, Document.order_editSection, h.order, if_pos (List.mem_eraseDups.mpr hname)]
  · have henter : r.enter key value =
        { r with interfaces := Interface.updateLast (·.enter key value) r.interfaces } := by
      rw [Reading.enter, h.place, hp]
    rw [henter]
    refine ⟨h.place.trans hplace.symm, h.allows.trans hin.symm,
      fun name => by rw [hentries, hsection]; simpa using h.entries name,
      by rw [hnames]; exact h.order, ?_⟩
    have hsame : before.map (fun header =>
        if (header? ls ls.length).any (· == header.1) = true then
          (interface ls header).set key value
        else interface ls header) = before.map (interface ls) :=
      List.map_congr_left fun header hheader => by simp [hbefore header hheader]
    rw [hinterfaces, hlist, List.map_append, List.map_singleton, hsame, if_pos hlast,
      h.interfaces, interfaces, hlist, List.map_append, List.map_singleton,
      Interface.updateLast_concat,
      Interface.enter_eq_set _ hkey hne hvalue]

theorem agrees_skip {r : Reading} (h : Agrees ls r) (hplace : place (ls ++ [l]) = place ls)
    (hin : inInterfaces (ls ++ [l]) (ls ++ [l]).length = inInterfaces ls ls.length)
    (hentries : ∀ name, entries (ls ++ [l]) name = entries ls name)
    (hnames : names (ls ++ [l]) = names ls)
    (hinterfaces : interfaces (ls ++ [l]) = interfaces ls) : Agrees (ls ++ [l]) r where
  place := h.place.trans hplace.symm
  allows := h.allows.trans hin.symm
  entries := fun name => (h.entries name).trans (hentries name).symm
  order := by rw [h.order, hnames]
  interfaces := h.interfaces.trans hinterfaces.symm

/-- One more line keeps the reader with the outline. -/
theorem agrees_step {r : Reading} (h : Agrees ls r)
    (hl : ∀ key value, l = .entry key value → Text.trim key = key ∧ Text.trim value = value) :
    Agrees (ls ++ [l]) (r.step l) := by
  have hplace := @place_append ls l
  have hin := @inInterfaces_last ls l
  have hentries (name : Text) := @entries_append ls l name
  have hnames := @names_append ls l
  have hinterfaces := @interfaces_append_of_not_entry ls l
  cases l with
  | blank | comment | unrecognized =>
    exact agrees_skip h hplace hin (by simpa using hentries) (by simpa using hnames)
      (by simpa using hinterfaces)
  | malformedHeader =>
    refine ⟨hplace.symm, hin.symm, fun name => ?_, ?_, ?_⟩
    · rw [hentries, List.append_nil]
      exact h.entries name
    · rw [hnames, List.append_nil]
      exact h.order
    · rw [hinterfaces (by simp), List.append_nil]
      exact h.interfaces
  | sectionHeader title =>
    refine ⟨hplace.symm, hin.symm, fun name => ?_, ?_, ?_⟩
    · rw [hentries, List.append_nil]
      exact (Document.entries_addSection ..).trans (h.entries name)
    · rw [hnames, eraseDups_concat, ← h.order]
      exact Document.order_editSection ..
    · rw [hinterfaces (by simp), List.append_nil]
      exact h.interfaces
  | interfaceHeader label =>
    simp only [List.append_nil] at hentries hnames
    have hinterfaces := hinterfaces (by simp)
    simp only at hplace hinterfaces
    rw [Reading.step, h.allows]
    by_cases hallowed : inInterfaces ls ls.length = true
    · rw [if_pos hallowed] at hplace hinterfaces ⊢
      refine ⟨hplace.symm, (hin.trans hallowed).symm, fun name => ?_, ?_, ?_⟩
      · rw [hentries]
        exact h.entries name
      · rw [hnames]
        exact h.order
      · rw [hinterfaces, ← h.interfaces]
    · rw [if_neg hallowed] at hplace hinterfaces ⊢
      exact agrees_skip h hplace hin hentries hnames (by rw [hinterfaces, List.append_nil])
  | entry key value =>
    obtain ⟨hkey, hvalue⟩ := hl key value rfl
    by_cases hne : key = []
    · subst hne
      refine agrees_skip h hplace hin (by simpa using hentries) (by simpa using hnames) ?_
      rw [interfaces_append_entry, interfaces]
      rfl
    · have hstep : r.step (.entry key value) = r.enter key value := by
        simp [Reading.step, hne]
      rw [hstep]
      exact agrees_enter h hne hkey hvalue

/-- The reader ends where the outline of all lines says. -/
theorem agrees_foldl (ls : List Line)
    (hls : ∀ key value, .entry key value ∈ ls → Text.trim key = key ∧ Text.trim value = value) :
    Agrees ls (ls.foldl Reading.step Reading.start) := by
  induction ls using List.reverseRecOn with
  | nil => exact agrees_start
  | append_singleton ls l ih =>
    rw [List.foldl_append]
    apply agrees_step (ih fun key value h => hls key value (by simp [h]))
    rintro key value rfl
    exact hls key value (by simp)

theorem trimmed_of_entry_mem {raws : List Text} {key value : Text}
    (h : Line.entry key value ∈ raws.map Line.classify) :
    Text.trim key = key ∧ Text.trim value = value := by
  obtain ⟨raw, -, hraw⟩ := List.mem_map.mp h
  exact Line.trim_of_classify_eq_entry hraw

end Outline

/-- Reading a text gives what its outline describes: each section holds the entries under its
headers, each interface header with an effect gives one interface with the entries under it set
in turn, and the sections are listed by their first headers before the reserved ones that have
none. -/
theorem Document.read_eq_outline (t : Text) (firstId : Nat) :
    let d := Document.read t firstId
    let lines := (Text.lines t).map Line.classify
    (∀ name, d.entries name = Outline.entries lines name) ∧
      d.interfaces = Outline.interfaces lines ∧ d.order = Outline.order lines := by
  intro d lines
  have h := Outline.agrees_foldl lines fun _ _ => Outline.trimmed_of_entry_mem
  change Outline.Agrees lines (Reading.ofText t) at h
  refine ⟨fun name => ?_, ?_, ?_⟩
  · rw [entries_read, h.entries]
  · rw [interfaces_read, h.interfaces]
  · rw [order_read, h.order, Outline.order]
    congr 1
    apply List.filter_congr
    intro name _
    simp

end GatewayConfig
