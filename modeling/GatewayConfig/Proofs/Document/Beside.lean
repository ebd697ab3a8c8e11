import GatewayConfig.Proofs.Document.Blocks

/-! # Reading lines behind others

Lines that open an interface have the same effect behind what was read before as they have alone:
what they add is added behind what is there. The reading that stands for the lines alone is the
one under the header of the interfaces' section.
-/

namespace GatewayConfig
open Text

namespace Interface

theorem updateLast_append_of_ne_nil (edit : Interface → Interface) (before : List Interface)
    {interfaces : List Interface} (h : interfaces ≠ []) :
    updateLast edit (before ++ interfaces) = before ++ updateLast edit interfaces := by
  rw [← List.dropLast_concat_getLast h, ← List.append_assoc, updateLast_concat, updateLast_concat,
    List.append_assoc]

theorem updateLast_ne_nil {edit : Interface → Interface} {interfaces : List Interface}
    (h : interfaces ≠ []) : updateLast edit interfaces ≠ [] := by
  rw [← List.dropLast_concat_getLast h, updateLast_concat]
  simp

theorem length_updateLast (edit : Interface → Interface) (interfaces : List Interface) :
    (updateLast edit interfaces).length = interfaces.length := by
  rcases interfaces.eq_nil_or_concat with rfl | ⟨before, i, rfl⟩
  · rfl
  · simp [updateLast_concat]

end Interface

namespace Reading

/-- The second reading has found what the first one has, behind what stands in `base`. -/
structure Beside (base alone r : Reading) : Prop where
  place : r.place = alone.place
  opened : alone.place = .inInterface → alone.interfaces ≠ []
  interfaces : r.interfaces = base.interfaces ++ alone.interfaces
  entries : ∀ name, r.document.entries name =
    base.document.entries name ++ alone.document.entries name

theorem Beside.enter {base alone r : Reading} (h : Beside base alone r) (key value : Text) :
    Beside base (alone.enter key value) (r.enter key value) := by
  unfold Reading.enter
  rw [h.place]
  cases hplace : alone.place with
  | outside => exact h
  | inSection name =>
    refine ⟨rfl, nofun, h.interfaces, fun other => ?_⟩
    rw [Document.entries_editSection, Document.entries_editSection, h.entries, h.entries]
    split
    next hname => rw [hname, List.append_assoc]
    next => rfl
  | inInterface =>
    have hopened := h.opened hplace
    refine ⟨rfl, fun _ => Interface.updateLast_ne_nil hopened, ?_, h.entries⟩
    rw [h.interfaces, Interface.updateLast_append_of_ne_nil _ _ hopened]

theorem Beside.step {base alone r : Reading} (h : Beside base alone r) (l : Line) :
    Beside base (alone.step l) (r.step l) := by
  cases l with
  | blank | comment | unrecognized => exact h
  | malformedHeader => exact ⟨rfl, nofun, h.interfaces, h.entries⟩
  | sectionHeader name =>
    refine ⟨rfl, nofun, h.interfaces, fun other => ?_⟩
    rw [Reading.step, Reading.step, Document.entries_addSection, Document.entries_addSection,
      h.entries]
  | interfaceHeader label =>
    rw [Reading.step, Reading.step, h.place]
    split
    next => exact ⟨rfl, by simp, by simp [h.interfaces], h.entries⟩
    next => exact h
  | entry key value =>
    rw [Reading.step, Reading.step]
    split
    next => exact h
    next => exact h.enter key value

theorem Beside.through {base alone r : Reading} (h : Beside base alone r) (ls : List Text) :
    Beside base (alone.through ls) (r.through ls) := by
  induction ls generalizing alone r with
  | nil => exact h
  | cons l ls ih => exact ih (h.step (Line.classify l))

/-- No line takes an entry away. -/
theorem mem_entries_step {r : Reading} {name : Text} {e : Entry}
    (h : e ∈ r.document.entries name) (l : Line) : e ∈ (r.step l).document.entries name := by
  cases l with
  | blank | comment | unrecognized | malformedHeader => exact h
  | sectionHeader other => rwa [step, Document.entries_addSection]
  | interfaceHeader label =>
    rw [step]
    split <;> exact h
  | entry key value =>
    rw [step]
    split
    next => exact h
    next =>
      unfold enter
      split
      next => exact h
      next other _ =>
        rw [Document.entries_editSection]
        split
        next hname => exact List.mem_append_left _ (hname ▸ h)
        next => exact h
      next => exact h

theorem mem_entries_through {r : Reading} {name : Text} {e : Entry}
    (h : e ∈ r.document.entries name) (ls : List Text) :
    e ∈ (r.through ls).document.entries name := by
  induction ls generalizing r with
  | nil => exact h
  | cons l ls ih => exact ih (mem_entries_step h _)

def underHeader : Reading := start.through [sectionHeaderLine interfacesSection]

theorem underHeader_eq : underHeader =
    ⟨.inSection interfacesSection, Document.addSection ⟨[], [], []⟩ interfacesSection, []⟩ := by
  have hname : WritableName interfacesSection := .of_reserved (by decide)
  rw [underHeader, through_cons, hname.classify, step, hname.sectionKey]
  rfl

theorem entries_underHeader (name : Text) : underHeader.document.entries name = [] := by
  rw [underHeader_eq, Document.entries_addSection]
  rfl

/-- An interface header is taken by both readings. -/
theorem beside_interfaceHeader {base : Reading} (hplace : base.place.allowsInterface = true)
    (label : Text) : Beside base (underHeader.step (.interfaceHeader label))
      (base.step (.interfaceHeader label)) := by
  have halone : underHeader.place.allowsInterface = true := by
    rw [underHeader_eq]
    decide
  rw [step, step, if_pos hplace, if_pos halone]
  refine ⟨rfl, fun _ => by simp, ?_, fun name => ?_⟩
  · simp [underHeader_eq]
  · simp [entries_underHeader]

/-- A first line has no effect, or leaves an entry in the interfaces' section, or is a header, which
puts the two readings beside each other. -/
theorem underHeader_step_cases {base : Reading} (hplace : base.place.allowsInterface = true)
    (l : Line) :
    (∀ r : Reading, r.step l = r) ∨
      (∃ e, e ∈ (underHeader.step l).document.entries interfacesSection) ∨
      Beside base (underHeader.step l) (base.step l) := by
  cases l with
  | blank | comment | unrecognized => exact .inl fun _ => rfl
  | malformedHeader =>
    refine .inr (.inr ⟨rfl, by simp [step], ?_, fun name => ?_⟩)
    · simp [step, underHeader_eq]
    · simp [step, entries_underHeader]
  | sectionHeader name =>
    refine .inr (.inr ⟨rfl, by simp [step], ?_, fun other => ?_⟩)
    · simp [step, underHeader_eq]
    · simp [step, entries_underHeader]
  | interfaceHeader label => exact .inr (.inr (beside_interfaceHeader hplace label))
  | entry key value =>
    by_cases hkey : key = []
    · exact .inl fun _ => by simp [step, hkey]
    · exact .inr (.inl ⟨⟨key, value⟩, by simp [underHeader_eq, step, enter, hkey]⟩)

/-- Lines that alone open an interface and leave no entry in a section have the same effect behind
a document's interfaces. -/
theorem beside_through_of_no_entries {base : Reading} (hplace : base.place.allowsInterface = true)
    {ls : List Text} (hopen : (underHeader.through ls).interfaces ≠ [])
    (hentries : ∀ name, (underHeader.through ls).document.entries name = []) :
    Beside base (underHeader.through ls) (base.through ls) := by
  induction ls with
  | nil =>
    rw [underHeader_eq] at hopen
    exact absurd rfl hopen
  | cons l ls ih =>
    rw [through_cons] at hopen hentries
    rw [through_cons, through_cons]
    rcases underHeader_step_cases hplace (Line.classify l) with hstep | ⟨e, he⟩ | hbeside
    · rw [hstep] at hopen hentries ⊢
      rw [hstep]
      exact ih hopen hentries
    · -- An entry before the first header would stay to the end.
      have hstays := mem_entries_through he ls
      rw [hentries] at hstays
      cases hstays
    · exact hbeside.through ls

end Reading

end GatewayConfig
