import GatewayConfig.Proofs.Line
import GatewayConfig.Validation.Validate

/-! # Paths of issues

The path of an issue starts with the section or the interface that the issue is about. No such
start continues another one, whatever follows it, so the issues about a section or an interface
can be told from a list of issues by their paths alone. What the warnings read of the root section
is the same for all documents with the same entries there.
-/

namespace GatewayConfig
open Text

theorem Text.ofNat_injective : Function.Injective ofNat := by
  intro m n h
  have hread (k : Nat) : Nat.ofDigitChars 10 (ofNat k) 0 = k :=
    Nat.ofDigitChars_toDigits (by decide) (by decide)
  rw [← hread m, h, hread]

theorem takeWhile_isDigit_position (position : Nat) (t : Text) :
    (Text.ofNat position ++ ("]".toList ++ t)).takeWhile Char.isDigit = Text.ofNat position := by
  have hdigits : ∀ c ∈ Text.ofNat position, c.isDigit = true := fun _ =>
    Nat.isDigit_of_mem_toDigits (by decide) (by decide)
  have hbracket : ("]".toList ++ t).takeWhile Char.isDigit = [] := rfl
  rw [List.takeWhile_append_of_pos hdigits, hbracket, List.append_nil]

theorem interfacePath_append (position : Nat) (t : Text) :
    interfacePath position ++ t =
      "interfaces[".toList ++ (Text.ofNat position ++ ("]".toList ++ t)) := by
  unfold interfacePath
  rw [List.append_assoc, List.append_assoc]

/-- What starts with the path of an interface starts with the path of no other one. -/
theorem interfacePath_append_inj {m n : Nat} {s t : Text}
    (h : interfacePath m ++ s = interfacePath n ++ t) : m = n ∧ s = t := by
  have hmn : m = n := by
    rw [interfacePath_append, interfacePath_append] at h
    have hrest := congrArg (List.takeWhile Char.isDigit) (List.append_cancel_left h)
    rw [takeWhile_isDigit_position, takeWhile_isDigit_position] at hrest
    exact Text.ofNat_injective hrest
  subst hmn
  exact ⟨rfl, List.append_cancel_left h⟩

theorem rootSection_append_ne (position : Nat) (s t : Text) :
    rootSection ++ s ≠ interfacePath position ++ t := by
  intro h
  have hroot : (rootSection ++ s).head? = some 'r' := rfl
  have hinterface : (interfacePath position ++ t).head? = some 'i' := by
    rw [interfacePath_append]
    rfl
  rw [h, hinterface] at hroot
  exact absurd hroot (by decide)

namespace Issue

/-- The issue placed below an owner: its path goes behind the owner's. -/
def below (owner : Text) (e : Issue) : Issue := { e with path := owner ++ ".".toList ++ e.path }

/-- The issue with the rest of its path, if its path starts with the owner's. -/
def from? (owner : Text) (e : Issue) : Option Issue :=
  ((owner ++ ".".toList).isPrefixOf? e.path).map fun path => { e with path }

/-- The issues that are about the owner, each with the rest of its path. -/
def about (owner : Text) (es : List Issue) : List Issue := es.filterMap (from? owner)

theorem from?_eq_some_iff {owner : Text} {e r : Issue} :
    e.from? owner = some r ↔ e = r.below owner := by
  obtain ⟨level, path, message⟩ := e
  obtain ⟨level', path', message'⟩ := r
  simp only [from?, below, Option.map_eq_some_iff, isPrefixOf?_eq_some_iff, Issue.mk.injEq]
  constructor
  · rintro ⟨rest, hpath, rfl, rfl, rfl⟩
    exact ⟨rfl, hpath, rfl⟩
  · rintro ⟨rfl, hpath, rfl⟩
    exact ⟨path', hpath, rfl, rfl, rfl⟩

theorem about_append (owner : Text) (es fs : List Issue) :
    about owner (es ++ fs) = about owner es ++ about owner fs := List.filterMap_append

theorem about_below (owner : Text) (es : List Issue) : about owner (es.map (below owner)) = es := by
  have hback : from? owner ∘ below owner = some := by
    funext e
    exact from?_eq_some_iff.mpr rfl
  rw [about, List.filterMap_map, hback, List.filterMap_some]

/-- Issues below an owner are about no other one whose path cannot start theirs. -/
theorem about_below_of_apart {owner other : Text} (h : ∀ s t, other ++ s ≠ owner ++ t)
    (es : List Issue) : about owner (es.map (below other)) = [] := by
  rw [about, List.filterMap_eq_nil_iff]
  intro e he
  obtain ⟨r, -, rfl⟩ := List.mem_map.mp he
  rw [Option.eq_none_iff_forall_ne_some]
  intro found hfound
  have hpath := congrArg Issue.path (from?_eq_some_iff.mp hfound)
  simp only [below, List.append_assoc] at hpath
  exact h _ _ hpath

end Issue

namespace Document

theorem modeWarnings_eq (d : Document) :
    d.modeWarnings = (d.interfaces.mapIdx fun position i => if i.isMismatched then
      [⟨.warning, interfacePath position ++ ".discoverable".toList,
        "Discoverable is usually paired with gateway/access_point mode".toList⟩]
      else []).flatten := by
  have hselect {α β : Type} (p : α → Bool) (g : α → β) (l : List α) :
      (l.filter p).map g = (l.map fun a => if p a then [g a] else []).flatten := by
    induction l with
    | nil => rfl
    | cons a l ih =>
      by_cases ha : p a = true
      · simp [ha, ih]
      · simp [ha, ih]
  rw [modeWarnings, hselect, List.mapIdx_eq_zipIdx_map]

theorem discovers_congr {d d' : Document} (h : d'.entries rootSection = d.entries rootSection) :
    d'.discovers = d.discovers := by
  rw [discovers, global?, h, discovers, global?]

theorem autoconnects_congr {d d' : Document}
    (h : d'.entries rootSection = d.entries rootSection) : d'.autoconnects = d.autoconnects := by
  rw [autoconnects, global?, h, autoconnects, global?]

end Document

end GatewayConfig
