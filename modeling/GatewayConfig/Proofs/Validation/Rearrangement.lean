import GatewayConfig.Document.Format
import GatewayConfig.Proofs.Document.Slots
import GatewayConfig.Proofs.Validation.Paths

/-! # Verdicts under moves and removals

Besides the issues about the root section, a verdict has one block of issues for each interface, in
the order of the interfaces. Only the position in the paths of a block says where its interface
stands. Main statement: an interface that is moved or removed takes its block along, and nothing
else is reported differently, except that a removal may silence the warning about discovery.
-/

namespace GatewayConfig
open Text

namespace Issue

/-- The blocks one after the other, each below the path of the interface at its position. -/
def layOut (blocks : List (List Issue)) : List Issue :=
  (blocks.mapIdx fun position es => es.map (below (interfacePath position))).flatten

/-- The blocks of the first `count` interfaces, told from the list by the paths. -/
def blocks (count : Nat) (es : List Issue) : List (List Issue) :=
  (List.range count).map fun position => about (interfacePath position) es

/-- The issues about the root section, told from the list by the paths. -/
def ofRoot (es : List Issue) : List Issue :=
  es.filter fun e => (rootSection ++ ".".toList).isPrefixOf e.path

theorem ofRoot_append (es fs : List Issue) : ofRoot (es ++ fs) = ofRoot es ++ ofRoot fs :=
  List.filter_append ..

theorem ofRoot_below (es : List Issue) :
    ofRoot (es.map (below rootSection)) = es.map (below rootSection) := by
  rw [ofRoot, List.filter_eq_self]
  intro e he
  obtain ⟨r, -, rfl⟩ := List.mem_map.mp he
  exact List.isPrefixOf_iff_prefix.mpr ⟨r.path, rfl⟩

theorem exists_of_mem_layOut {blocks : List (List Issue)} {e : Issue} (h : e ∈ layOut blocks) :
    ∃ position rest, e.path = interfacePath position ++ rest := by
  obtain ⟨es, hes, he⟩ := List.mem_flatten.mp h
  obtain ⟨position, hposition, rfl⟩ := List.mem_mapIdx.mp hes
  obtain ⟨r, -, rfl⟩ := List.mem_map.mp he
  exact ⟨position, ".".toList ++ r.path, List.append_assoc ..⟩

theorem ofRoot_layOut (blocks : List (List Issue)) : ofRoot (layOut blocks) = [] := by
  rw [ofRoot, List.filter_eq_nil_iff]
  intro e he hroot
  obtain ⟨position, rest, hpath⟩ := exists_of_mem_layOut he
  obtain ⟨suffix, hsuffix⟩ := List.isPrefixOf_iff_prefix.mp hroot
  rw [hpath, List.append_assoc] at hsuffix
  exact rootSection_append_ne _ _ _ hsuffix

theorem about_below_root (position : Nat) (es : List Issue) :
    about (interfacePath position) (es.map (below rootSection)) = [] :=
  about_below_of_apart (rootSection_append_ne position) es

theorem layOut_map (l : List α) (block : α → List Issue) : layOut (l.map block) =
    (l.mapIdx fun position a => (block a).map (below (interfacePath position))).flatten := by
  rw [layOut]
  congr 1
  apply List.ext_getElem?
  intro position
  rw [List.getElem?_mapIdx, List.getElem?_map, List.getElem?_mapIdx, Option.map_map]
  rfl

theorem layOut_concat (blocks : List (List Issue)) (es : List Issue) :
    layOut (blocks ++ [es]) =
      layOut blocks ++ es.map (below (interfacePath blocks.length)) := by
  rw [layOut, List.mapIdx_concat, List.flatten_append, List.flatten_singleton, layOut]

/-- Of the blocks that are laid out, the one at the position is about the interface there. -/
theorem about_layOut (position : Nat) (blocks : List (List Issue)) :
    about (interfacePath position) (layOut blocks) = blocks[position]?.getD [] := by
  induction blocks using List.reverseRecOn with
  | nil => rfl
  | append_singleton blocks es ih =>
    rw [layOut_concat, about_append, ih]
    by_cases hlast : blocks.length = position
    · subst hlast
      rw [about_below, List.getElem?_concat_length, List.getElem?_eq_none le_rfl]
      rfl
    · have hother : ∀ s t, interfacePath blocks.length ++ s ≠ interfacePath position ++ t :=
        fun s t h => hlast (interfacePath_append_inj h).1
      rw [about_below_of_apart hother, List.append_nil]
      rcases Nat.lt_or_gt_of_ne hlast with h | h
      · have hend : (blocks ++ [es]).length ≤ position := by
          rw [List.length_append, List.length_singleton]
          exact h
        rw [List.getElem?_eq_none h.le, List.getElem?_eq_none hend]
      · rw [List.getElem?_append_left h]

/-- Blocks are told from a list in which they are laid out beside issues about the root section. -/
theorem blocks_eq {es : List Issue} {blocks : List (List Issue)}
    (h : ∀ position, about (interfacePath position) es = blocks[position]?.getD []) :
    Issue.blocks blocks.length es = blocks := by
  apply List.ext_getElem
  · simp [Issue.blocks]
  · intro position _ hposition
    simp [Issue.blocks, h, hposition]

end Issue

def autoconnectPath : Text := rootSection ++ ".autoconnect_discovered_interfaces".toList

namespace Interface

def errors (i : Interface) : List Issue := i.findings.map fun f => ⟨.error, f.key, f.fault.message⟩

def warnings (i : Interface) : List Issue :=
  if i.isMismatched then
    [⟨.warning, "discoverable".toList,
      "Discoverable is usually paired with gateway/access_point mode".toList⟩]
  else []

end Interface

namespace Document

def rootErrors (d : Document) : List Issue :=
  (Entries.discoveryFindings (d.entries rootSection)).map fun f =>
    ⟨.error, f.key, f.fault.message⟩

/-- The warning that an interface announces itself while nothing is discovered. -/
def discoveryWarning (d : Document) : List Issue :=
  if !d.discovers && d.interfaces.any (·.isDiscoverable) then
    [⟨.warning, "discover_interfaces".toList,
      ("Global discover_interfaces is disabled while " ++
        "one or more interfaces are discoverable").toList⟩]
  else []

/-- The warning that connections are asked for while nothing is discovered. -/
def autoconnectWarning (d : Document) : List Issue :=
  if !d.discovers && d.autoconnects then
    [⟨.warning, "autoconnect_discovered_interfaces".toList,
      "Auto-connect is configured but global discovery is disabled".toList⟩]
  else []

theorem autoconnectWarning_congr {d d' : Document}
    (h : d'.entries rootSection = d.entries rootSection) :
    d'.autoconnectWarning = d.autoconnectWarning := by
  rw [autoconnectWarning, discovers_congr h, autoconnects_congr h, autoconnectWarning]

theorem errors_eq (d : Document) :
    d.errors = d.rootErrors.map (.below rootSection) ++
      Issue.layOut (d.interfaces.map Interface.errors) := by
  have hissues (owner : Text) (fs : List Finding) : fs.map (·.issue owner) =
      (fs.map fun f => (⟨.error, f.key, f.fault.message⟩ : Issue)).map (.below owner) := by
    rw [List.map_map]
    rfl
  rw [errors, Issue.layOut_map, hissues]
  simp only [hissues]
  rfl

theorem warnings_eq (d : Document) :
    d.warnings = Issue.layOut (d.interfaces.map Interface.warnings) ++
      (d.discoveryWarning ++ d.autoconnectWarning).map (.below rootSection) := by
  have hmap (p : Bool) (e : Issue) (owner : Text) :
      (if p then [e] else []).map (Issue.below owner) = if p then [e.below owner] else [] := by
    cases p <;> rfl
  have hdot (position : Nat) : interfacePath position ++ ".".toList ++ "discoverable".toList =
      interfacePath position ++ ".discoverable".toList := List.append_assoc ..
  rw [warnings, modeWarnings_eq, Issue.layOut_map, List.map_append, List.append_assoc,
    discoveryWarning, autoconnectWarning, hmap, hmap]
  simp only [Interface.warnings, hmap, Issue.below, hdot]
  rfl

theorem ofRoot_errors (d : Document) :
    Issue.ofRoot d.errors = d.rootErrors.map (.below rootSection) := by
  rw [errors_eq, Issue.ofRoot_append, Issue.ofRoot_below, Issue.ofRoot_layOut, List.append_nil]

theorem blocks_errors (d : Document) :
    Issue.blocks d.interfaces.length d.errors = d.interfaces.map Interface.errors := by
  have habout (position : Nat) : Issue.about (interfacePath position) d.errors =
      (d.interfaces.map Interface.errors)[position]?.getD [] := by
    rw [errors_eq, Issue.about_append, Issue.about_below_root, Issue.about_layOut, List.nil_append]
  have hblocks := Issue.blocks_eq habout
  rwa [List.length_map] at hblocks

theorem ofRoot_warnings (d : Document) : Issue.ofRoot d.warnings =
    (d.discoveryWarning ++ d.autoconnectWarning).map (.below rootSection) := by
  rw [warnings_eq, Issue.ofRoot_append, Issue.ofRoot_layOut, Issue.ofRoot_below, List.nil_append]

theorem blocks_warnings (d : Document) :
    Issue.blocks d.interfaces.length d.warnings = d.interfaces.map Interface.warnings := by
  have habout (position : Nat) : Issue.about (interfacePath position) d.warnings =
      (d.interfaces.map Interface.warnings)[position]?.getD [] := by
    rw [warnings_eq, Issue.about_append, Issue.about_below_root, Issue.about_layOut, List.append_nil]
  have hblocks := Issue.blocks_eq habout
  rwa [List.length_map] at hblocks

theorem filter_autoconnectPath (d : Document) :
    d.warnings.filter (·.path == autoconnectPath) =
      d.autoconnectWarning.map (.below rootSection) := by
  have hblocks : (Issue.layOut (d.interfaces.map Interface.warnings)).filter
      (·.path == autoconnectPath) = [] := by
    rw [List.filter_eq_nil_iff]
    intro w hw hpath
    obtain ⟨position, rest, hw⟩ := Issue.exists_of_mem_layOut hw
    rw [beq_iff_eq, hw] at hpath
    exact rootSection_append_ne _ _ _ hpath.symm
  have hdiscovery : (d.discoveryWarning.map (Issue.below rootSection)).filter
      (·.path == autoconnectPath) = [] := by
    rw [discoveryWarning]
    split <;> rfl
  have hautoconnect : (d.autoconnectWarning.map (Issue.below rootSection)).filter
      (·.path == autoconnectPath) = d.autoconnectWarning.map (Issue.below rootSection) := by
    rw [autoconnectWarning]
    split <;> rfl
  rw [warnings_eq, List.map_append, List.filter_append, List.filter_append, hblocks, hdiscovery,
    hautoconnect, List.nil_append, List.nil_append]

end Document

/-- The second verdict has the blocks of the first one in another arrangement and reports the same
about the root section, the warning about discovery apart. -/
structure Verdict.Rearranges (before after : Verdict) (count : Nat)
    (arrange : List (List Issue) → List (List Issue)) : Prop where
  errors : after.errors = Issue.ofRoot before.errors ++
    Issue.layOut (arrange (Issue.blocks count before.errors))
  warnings : after.warnings =
    Issue.layOut (arrange (Issue.blocks count before.warnings)) ++ Issue.ofRoot after.warnings
  autoconnect : after.warnings.filter (·.path == autoconnectPath) =
    before.warnings.filter (·.path == autoconnectPath)

namespace Document

/-- A document with its interfaces in another arrangement has a verdict with its blocks in the same
arrangement. -/
theorem rearranges {d d' : Document} {arrange : {α : Type} → List α → List α}
    (hmap : ∀ {α β : Type} (f : α → β) (l : List α), (arrange l).map f = arrange (l.map f))
    (hroot : d'.entries rootSection = d.entries rootSection)
    (hinterfaces : d'.interfaces = arrange d.interfaces) :
    d.validate.Rearranges d'.validate d.interfaces.length arrange where
  errors := by
    have hrootErrors : d'.rootErrors = d.rootErrors := by rw [rootErrors, hroot, rootErrors]
    change d'.errors = Issue.ofRoot d.errors ++
      Issue.layOut (arrange (Issue.blocks d.interfaces.length d.errors))
    rw [ofRoot_errors, blocks_errors, errors_eq, hrootErrors, hinterfaces, hmap]
  warnings := by
    change d'.warnings = Issue.layOut (arrange (Issue.blocks d.interfaces.length d.warnings)) ++
      Issue.ofRoot d'.warnings
    rw [ofRoot_warnings, blocks_warnings, warnings_eq, hinterfaces, hmap]
  autoconnect := by
    change d'.warnings.filter _ = d.warnings.filter _
    rw [filter_autoconnectPath, filter_autoconnectPath, autoconnectWarning_congr hroot]

/-- In a move even the warning about discovery stays as it is. -/
theorem ofRoot_warnings_of_perm {d d' : Document}
    (hroot : d'.entries rootSection = d.entries rootSection)
    (hperm : d'.interfaces.Perm d.interfaces) :
    Issue.ofRoot d'.warnings = Issue.ofRoot d.warnings := by
  have hany : d'.interfaces.any (·.isDiscoverable) = d.interfaces.any (·.isDiscoverable) := by
    rw [Bool.eq_iff_iff, List.any_eq_true, List.any_eq_true]
    simp only [hperm.mem_iff]
  have hdiscovery : d'.discoveryWarning = d.discoveryWarning := by
    rw [discoveryWarning, discovers_congr hroot, hany, discoveryWarning]
  rw [ofRoot_warnings, ofRoot_warnings, hdiscovery, autoconnectWarning_congr hroot]

/-- For each interface there is one block of errors and one of warnings, which depend on nothing
but the interface. An interface that is moved or removed takes its blocks along. -/
theorem validate_equivariant :
    (∃ errors warnings : Interface → List Issue, ∀ d : Document,
      d.validate.errors = Issue.ofRoot d.validate.errors ++
        Issue.layOut (d.interfaces.map errors) ∧
      d.validate.warnings = Issue.layOut (d.interfaces.map warnings) ++
        Issue.ofRoot d.validate.warnings) ∧
    (∀ (d : Document) (source target : Nat),
      source < d.interfaces.length → target < d.interfaces.length →
        ∃ d', d.move? source target = some d' ∧
          d.validate.Rearranges d'.validate d.interfaces.length (relocate source target) ∧
          Issue.ofRoot d'.validate.warnings = Issue.ofRoot d.validate.warnings) ∧
    ∀ (d : Document) (id : InterfaceId),
      d.validate.Rearranges (d.remove id).validate d.interfaces.length (dropAt (d.index? id)) := by
  refine ⟨⟨Interface.errors, Interface.warnings, fun d => ⟨?_, ?_⟩⟩, ?_, ?_⟩
  · change d.errors = Issue.ofRoot d.errors ++ _
    rw [ofRoot_errors, ← errors_eq]
  · change d.warnings = _ ++ Issue.ofRoot d.warnings
    rw [ofRoot_warnings, ← warnings_eq]
  · intro d source target hsource htarget
    obtain ⟨d', hmove, hinterfaces, hroot⟩ := exists_move? hsource htarget
    exact ⟨d', hmove, rearranges (map_relocate source target) (hroot _) hinterfaces,
      ofRoot_warnings_of_perm (hroot _) ((perm_of_move? hmove).map _)⟩
  · intro d id
    exact rearranges (map_dropAt (d.index? id)) rfl (interfaces_remove d id)

theorem validate_equivariant_swapped :
    let d := read ("[interfaces]\n[[Roof]]\ntype = AutoInterface\ndiscoverable = yes\n" ++
      "mode = roaming\n[[Cellar]]\n").toList 0
    (0 < d.interfaces.length ∧ 1 < d.interfaces.length) ∧
      (Issue.blocks d.interfaces.length d.validate.errors).map List.length = [0, 1] ∧
      ∃ d', d.move? 0 1 = some d' ∧
        d.validate.Rearranges d'.validate d.interfaces.length (relocate 0 1) ∧
        Issue.ofRoot d'.validate.warnings = Issue.ofRoot d.validate.warnings := by
  intro d
  have hlength : 0 < d.interfaces.length ∧ 1 < d.interfaces.length := by decide +kernel
  have hblocks : (Issue.blocks d.interfaces.length d.validate.errors).map List.length = [0, 1] := by
    decide +kernel
  exact ⟨hlength, hblocks, validate_equivariant.2.1 d 0 1 hlength.1 hlength.2⟩

end Document
end GatewayConfig
