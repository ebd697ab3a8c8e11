import GatewayConfig.Proofs.Document.Beside
import GatewayConfig.Proofs.Document.Layout

/-! # One text behind another

A section header forgets where the reader was, and an open interface takes the entries down to the
first header of any kind. So behind whatever was read before, a text adds what the lines above its
first header add there, and then what it holds on its own. Main statement: put behind another one, a
text whose first line that is not silent opens or closes a section adds to each section and to the
interfaces what it holds on its own.
-/

namespace GatewayConfig
open Text

def Line.breaksSection : Line → Bool
  | sectionHeader _ | malformedHeader => true
  | _ => false

/-- The lines of a text above its first section header, a malformed one included. -/
def preamble (t : Text) : List Text :=
  (lines t).takeWhile fun l => !(Line.classify l).breaksSection

namespace Reading

theorem step_of_outside {r : Reading} (hplace : r.place = .outside) {l : Line}
    (hl : l.breaksSection = false) : r.step l = r := by
  cases l with
  | blank | comment | unrecognized => rfl
  | sectionHeader | malformedHeader => cases hl
  | interfaceHeader label => simp [step, hplace, Place.allowsInterface]
  | entry key value => simp [step, enter, hplace]

theorem through_of_outside {r : Reading} (hplace : r.place = .outside) {ls : List Text}
    (hls : ∀ l ∈ ls, (Line.classify l).breaksSection = false) : r.through ls = r := by
  induction ls with
  | nil => rfl
  | cons l ls ih =>
    obtain ⟨hl, hls⟩ := List.forall_mem_cons.mp hls
    rw [through_cons, step_of_outside hplace hl, ih hls]

theorem beside_of_breaksSection (base : Reading) {l : Line} (hl : l.breaksSection = true) :
    Beside base (start.step l) (base.step l) := by
  cases l with
  | sectionHeader name =>
    refine ⟨rfl, fun hplace => ?_, (List.append_nil _).symm, fun other => ?_⟩
    · cases hplace
    · rw [step, step, Document.entries_addSection, Document.entries_addSection]
      exact (List.append_nil _).symm
  | malformedHeader =>
    refine ⟨rfl, fun hplace => ?_, (List.append_nil _).symm, fun _ => (List.append_nil _).symm⟩
    cases hplace
  | blank | comment | unrecognized | interfaceHeader | entry => cases hl

/-- A text adds to what was read before what its preamble adds there, and then what it holds. -/
theorem through_lines (base : Reading) (t : Text) :
    (base.through (lines t)).interfaces =
        (base.through (preamble t)).interfaces ++ (ofText t).interfaces ∧
      ∀ name, (base.through (lines t)).document.entries name =
        (base.through (preamble t)).document.entries name ++
          (ofText t).document.entries name := by
  have hsplit : lines t =
      preamble t ++ (lines t).dropWhile (fun l => !(Line.classify l).breaksSection) :=
    List.takeWhile_append_dropWhile.symm
  have hnone : start.through (preamble t) = start := by
    apply through_of_outside rfl
    intro l hl
    simpa using List.mem_takeWhile_imp hl
  rw [ofText_eq_through, hsplit, through_append, through_append, hnone]
  cases hrest : (lines t).dropWhile (fun l => !(Line.classify l).breaksSection) with
  | nil => exact ⟨(List.append_nil _).symm, fun _ => (List.append_nil _).symm⟩
  | cons l rest =>
    have hl : (Line.classify l).breaksSection = true := by
      have := List.head?_dropWhile_not (fun l => !(Line.classify l).breaksSection) (lines t)
      simpa [hrest] using this
    have hbeside :=
      (beside_of_breaksSection (base.through (preamble t)) hl).through rest
    exact ⟨hbeside.interfaces, hbeside.entries⟩

end Reading

/-- The first line that is not silent, if there is one, opens a section or closes the open one. -/
def Text.StartsAfresh (t : Text) : Prop :=
  ∀ l ∈ (lines t).find? fun l => !(Line.classify l).isSilent,
    (Line.classify l).breaksSection = true

instance : DecidablePred Text.StartsAfresh :=
  fun t => inferInstanceAs (Decidable (∀ l ∈ (lines t).find? fun l => !(Line.classify l).isSilent,
    (Line.classify l).breaksSection = true))

/-- If the first element without one property has another one, then those above the first element
with the other one have the first property. -/
theorem forall_mem_takeWhile_of_find? {α : Type*} {p q : α → Bool} {l : List α}
    (h : ∀ a ∈ l.find? (!q ·), p a = true) : ∀ a ∈ l.takeWhile (!p ·), q a = true := by
  induction l with
  | nil => simp
  | cons first rest ih =>
    cases hq : q first with
    | true =>
      rw [List.find?_cons_of_neg (by simp [hq])] at h
      intro a ha
      rw [List.takeWhile_cons] at ha
      split at ha
      next =>
        rcases List.mem_cons.mp ha with rfl | ha
        · exact hq
        · exact ih h a ha
      next => cases ha
    | false =>
      have hp : p first = true := h first (List.find?_cons_of_pos (by simp [hq]))
      simp [hp]

/-- Above its first section header such a text has silent lines only. -/
theorem Text.StartsAfresh.silent_of_mem_preamble {t : Text} (h : t.StartsAfresh) :
    ∀ l ∈ preamble t, (Line.classify l).isSilent = true :=
  forall_mem_takeWhile_of_find? h

namespace Document

/-- A text that starts afresh adds its sections and interfaces to those of a text above it. -/
theorem read_append_of_startsAfresh (t : Text) {u : Text} (h : u.StartsAfresh)
    (firstId tId uId : Nat) :
    (∀ name, (read (t ++ '\n' :: u) firstId).entries name =
      (read t tId).entries name ++ (read u uId).entries name) ∧
    (read (t ++ '\n' :: u) firstId).interfaces =
      (read t tId).interfaces ++ (read u uId).interfaces := by
  have hpreamble := (Reading.ofText t).through_of_isSilent h.silent_of_mem_preamble
  obtain ⟨hinterfaces, hentries⟩ := (Reading.ofText t).through_lines u
  have hboth : Reading.ofText (t ++ '\n' :: u) = (Reading.ofText t).through (lines u) := by
    rw [Reading.ofText_eq_through, lines_append_newline, Reading.through_append,
      Reading.ofText_eq_through]
  rw [hpreamble] at hinterfaces hentries
  constructor
  · intro name
    rw [entries_read, entries_read, entries_read, hboth, hentries]
  · rw [interfaces_read, interfaces_read, interfaces_read, hboth, hinterfaces]

theorem read_append_of_startsAfresh_malformed :
    let t := "[peers]\na = 1\n[interfaces]\n[[Roof]]\nmode = ap".toList
    let u := "# more\n = x\n[ ]\nlost = 1\n[Peers]\na = 2\n[interfaces]\n[[Hall]]".toList
    StartsAfresh u ∧
      (∀ name, (read (t ++ '\n' :: u) 0).entries name =
        (read t 3).entries name ++ (read u 7).entries name) ∧
      (read (t ++ '\n' :: u) 0).interfaces = (read t 3).interfaces ++ (read u 7).interfaces := by
  intro t u
  have hafresh : StartsAfresh u := by decide +kernel
  exact ⟨hafresh, read_append_of_startsAfresh t hafresh 0 3 7⟩

end Document

namespace Line

def isHeader : Line → Bool
  | interfaceHeader _ => true
  | l => l.breaksSection

def keyed? : Line → Option Entry
  | entry key value => if key.isEmpty then none else some ⟨key, value⟩
  | _ => none

end Line

/-- The entries of a text above its first header, in the order of the text. -/
def leadingEntries (t : Text) : List Entry :=
  (((lines t).map Line.classify).takeWhile (!·.isHeader)).filterMap Line.keyed?

namespace Interface

def setAll (i : Interface) (entries : List Entry) : Interface :=
  entries.foldl (fun i e => i.set e.key e.value) i

@[simp] theorem setAll_nil (i : Interface) : i.setAll [] = i := rfl

theorem setAll_cons (i : Interface) (e : Entry) (entries : List Entry) :
    i.setAll (e :: entries) = (i.set e.key e.value).setAll entries := rfl

theorem name_setAll (i : Interface) (entries : List Entry) : (i.setAll entries).name = i.name := by
  induction entries generalizing i with
  | nil => rfl
  | cons e entries ih => rw [setAll_cons, ih, name_set]

end Interface

namespace Reading

/-- In an open interface a line that is no header sets its entry, if it has one. -/
theorem step_inInterface (d : Document) (i : Interface) {raw : Text}
    (hraw : (Line.classify raw).isHeader = false) :
    step ⟨.inInterface, d, [i]⟩ (Line.classify raw) =
      ⟨.inInterface, d, [i.setAll (Line.classify raw).keyed?.toList]⟩ := by
  cases hl : Line.classify raw with
  | blank | comment | unrecognized => rfl
  | interfaceHeader | sectionHeader | malformedHeader =>
    rw [hl] at hraw
    cases hraw
  | entry key value =>
    obtain ⟨hkey, hvalue⟩ := Line.trim_of_classify_eq_entry hl
    by_cases hne : key = []
    · subst hne
      rfl
    · have hset := i.enter_eq_set hkey hne hvalue
      simp [step, enter, hne, Interface.updateLast, Line.keyed?, Interface.setAll, hset]

/-- Behind a header nothing is changed that was read above it. -/
theorem exists_beside_of_isHeader (base : Reading) (hplace : base.place.allowsInterface = true)
    {l : Line} (hl : l.isHeader = true) : ∃ alone, Beside base alone (base.step l) := by
  cases l with
  | interfaceHeader label => exact ⟨_, beside_interfaceHeader hplace label⟩
  | sectionHeader | malformedHeader => exact ⟨_, beside_of_breaksSection base hl⟩
  | blank | comment | unrecognized | entry => cases hl

/-- An open interface takes the entries above the first header and nothing else. -/
theorem through_inInterface (d : Document) (i : Interface) (ls : List Text) :
    ∃ more, (through ⟨.inInterface, d, [i]⟩ ls).interfaces =
      i.setAll (((ls.map Line.classify).takeWhile (!·.isHeader)).filterMap Line.keyed?) ::
        more := by
  induction ls generalizing i with
  | nil => exact ⟨[], rfl⟩
  | cons raw ls ih =>
    rw [through_cons, List.map_cons]
    cases hraw : (Line.classify raw).isHeader with
    | true =>
      obtain ⟨alone, hbeside⟩ := exists_beside_of_isHeader ⟨.inInterface, d, [i]⟩ rfl hraw
      rw [List.takeWhile_cons_of_neg (by simp [hraw])]
      exact ⟨_, (hbeside.through ls).interfaces⟩
    | false =>
      obtain ⟨more, hmore⟩ := ih (i.setAll (Line.classify raw).keyed?.toList)
      rw [step_inInterface d i hraw, List.takeWhile_cons_of_pos (by simp [hraw])]
      refine ⟨more, ?_⟩
      rw [hmore]
      cases hentry : (Line.classify raw).keyed? with
      | none => rw [List.filterMap_cons_none hentry, Option.toList_none, Interface.setAll_nil]
      | some e =>
        rw [List.filterMap_cons_some hentry, Option.toList_some, Interface.setAll_cons,
          Interface.setAll_cons, Interface.setAll_nil]

end Reading

end GatewayConfig
