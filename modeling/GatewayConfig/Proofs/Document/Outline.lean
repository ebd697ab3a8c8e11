import GatewayConfig.Proofs.Document.Sections
import GatewayConfig.Proofs.Interface

/-! # The outline of a text

The reader goes through a text once, with a place that it keeps in mind. Here the same document
is described without a place and without an order of steps: each line looks up to the nearest
header above it that has an effect, and each section and interface collects the lines below its
headers. The two descriptions agree on every text.
-/

namespace GatewayConfig

namespace Outline

/-- The nearest position above `i` at which `p` holds. -/
def nearest? (p : Nat → Bool) : Nat → Option Nat
  | 0 => none
  | i + 1 => if p i then some i else nearest? p i

section
variable (lines : List Line)

def isSectionBreak (i : Nat) : Bool :=
  match lines[i]? with
  | some (.sectionHeader _) | some .malformedHeader => true
  | _ => false

/-- The nearest section break above opens the section of the interfaces. -/
def inInterfaces (i : Nat) : Bool :=
  match (nearest? (isSectionBreak lines) i).bind (lines[·]?) with
  | some (.sectionHeader name) => sectionKey name == interfacesSection
  | _ => false

/-- The line is a header that has an effect: a section break, or an interface header in the
section of the interfaces. -/
def isHeader (i : Nat) : Bool :=
  match lines[i]? with
  | some (.interfaceHeader _) => inInterfaces lines i
  | _ => isSectionBreak lines i

def header? (i : Nat) : Option Nat := nearest? (isHeader lines) i

/-- The entry on a line, if it has a key and its nearest header is one of those in question. -/
def entryUnder? (p : Nat → Bool) (i : Nat) : Option Entry :=
  match lines[i]? with
  | some (.entry key value) =>
    if !key.isEmpty && (header? lines i).any p then some ⟨key, value⟩ else none
  | _ => none

def entriesUnder (p : Nat → Bool) : List Entry :=
  (List.range lines.length).filterMap (entryUnder? lines p)

def isHeaderOf (name : Text) (h : Nat) : Bool :=
  match lines[h]? with
  | some (.sectionHeader title) => sectionKey title == name
  | _ => false

def entries (name : Text) : List Entry := entriesUnder lines (isHeaderOf lines name)

/-- The label of an interface header that has an effect, with its position. -/
def interfaceHeader? (h : Nat) : Option (Nat × Text) :=
  match lines[h]? with
  | some (.interfaceHeader label) => if isHeader lines h then some (h, label) else none
  | _ => none

def interfaceHeaders : List (Nat × Text) :=
  (List.range lines.length).filterMap (interfaceHeader? lines)

/-- The interface under a header: a new one on which the entries below are set in turn. -/
def interface (header : Nat × Text) : Interface :=
  (entriesUnder lines (· == header.1)).foldl (fun i e => i.set e.key e.value)
    (Interface.new (Text.trim header.2) [])

def interfaces : List Interface := (interfaceHeaders lines).map (interface lines)

def names : List Text :=
  lines.filterMap fun
    | .sectionHeader title => some (sectionKey title)
    | _ => none

/-- The names in the order of their first headers, then the reserved ones without a header. -/
def order : List Text :=
  (names lines).eraseDups ++ reservedSections.filter (!(names lines).contains ·)

end

theorem nearest?_congr {p q : Nat → Bool} {i : Nat} (h : ∀ j < i, p j = q j) :
    nearest? p i = nearest? q i := by
  induction i with
  | zero => rfl
  | succ i ih => rw [nearest?, nearest?, h i (by omega), ih fun j hj => h j (by omega)]

theorem lt_of_nearest? {p : Nat → Bool} {i j : Nat} (h : nearest? p i = some j) : j < i := by
  induction i with
  | zero => cases h
  | succ i ih =>
    rw [nearest?] at h
    split at h
    next =>
      have := Option.some.inj h
      omega
    next =>
      have := ih h
      omega

theorem filterMap_range_succ {α : Type*} {f g : Nat → Option α} {n : Nat}
    (h : ∀ i < n, f i = g i) :
    (List.range (n + 1)).filterMap f = (List.range n).filterMap g ++ (f n).toList := by
  rw [List.range_succ, List.filterMap_append,
    List.filterMap_congr fun i hi => h i (List.mem_range.mp hi)]
  cases hf : f n <;> simp [hf]

-- Nothing above a line depends on what follows, so a line added at the end leaves all that was
-- there as it was.

variable {ls : List Line} {l : Line} {i : Nat}

theorem isSectionBreak_append (hi : i < ls.length) :
    isSectionBreak (ls ++ [l]) i = isSectionBreak ls i := by
  rw [isSectionBreak, isSectionBreak, List.getElem?_append_left hi]

theorem inInterfaces_append (hi : i ≤ ls.length) :
    inInterfaces (ls ++ [l]) i = inInterfaces ls i := by
  have hnearest : nearest? (isSectionBreak (ls ++ [l])) i = nearest? (isSectionBreak ls) i :=
    nearest?_congr fun j hj => isSectionBreak_append (hj.trans_le hi)
  rw [inInterfaces, inInterfaces, hnearest]
  cases h : nearest? (isSectionBreak ls) i with
  | none => rfl
  | some j =>
    have hj : j < ls.length := (lt_of_nearest? h).trans_le hi
    simp only [Option.bind_some, List.getElem?_append_left hj]

theorem isHeader_append (hi : i < ls.length) : isHeader (ls ++ [l]) i = isHeader ls i := by
  rw [isHeader, isHeader, List.getElem?_append_left hi, inInterfaces_append hi.le,
    isSectionBreak_append hi]

theorem header?_append (hi : i ≤ ls.length) : header? (ls ++ [l]) i = header? ls i :=
  nearest?_congr fun _ hj => isHeader_append (hj.trans_le hi)

theorem isHeader_last :
    isHeader (ls ++ [l]) ls.length = match l with
      | .sectionHeader _ | .malformedHeader => true
      | .interfaceHeader _ => inInterfaces ls ls.length
      | _ => false := by
  rw [isHeader, isSectionBreak, List.getElem?_concat_length, inInterfaces_append le_rfl]
  cases l <;> rfl

theorem header?_last :
    header? (ls ++ [l]) (ls ++ [l]).length =
      if isHeader (ls ++ [l]) ls.length then some ls.length else header? ls ls.length := by
  rw [List.length_append, List.length_singleton, header?, nearest?]
  split
  next => rfl
  next => exact header?_append le_rfl

theorem entriesUnder_append {p q : Nat → Bool} (h : ∀ j < ls.length, p j = q j) :
    entriesUnder (ls ++ [l]) p = entriesUnder ls q ++ match l with
      | .entry key value =>
        if !key.isEmpty && (header? ls ls.length).any q then [⟨key, value⟩] else []
      | _ => [] := by
  have hany {i : Nat} (hi : i ≤ ls.length) :
      (header? (ls ++ [l]) i).any p = (header? ls i).any q := by
    rw [header?_append hi]
    cases hh : header? ls i with
    | none => rfl
    | some j =>
      have hj := lt_of_nearest? hh
      exact h j (by omega)
  have hold : ∀ i < ls.length, entryUnder? (ls ++ [l]) p i = entryUnder? ls q i := by
    intro i hi
    simp only [entryUnder?, List.getElem?_append_left hi, hany hi.le]
  rw [entriesUnder, List.length_append, List.length_singleton, filterMap_range_succ hold,
    entriesUnder, entryUnder?, List.getElem?_concat_length]
  cases l with
  | entry key value =>
    simp only [hany le_rfl]
    split <;> rfl
  | _ => rfl

theorem isHeaderOf_append {name : Text} (hi : i < ls.length) :
    isHeaderOf (ls ++ [l]) name i = isHeaderOf ls name i := by
  rw [isHeaderOf, isHeaderOf, List.getElem?_append_left hi]

theorem interfaceHeaders_append :
    interfaceHeaders (ls ++ [l]) = interfaceHeaders ls ++ match l with
      | .interfaceHeader label =>
        if inInterfaces ls ls.length then [(ls.length, label)] else []
      | _ => [] := by
  have hold : ∀ i < ls.length, interfaceHeader? (ls ++ [l]) i = interfaceHeader? ls i := by
    intro i hi
    simp only [interfaceHeader?, List.getElem?_append_left hi, isHeader_append hi]
  rw [interfaceHeaders, List.length_append, List.length_singleton, filterMap_range_succ hold,
    interfaceHeaders, interfaceHeader?, List.getElem?_concat_length, isHeader_last]
  cases l with
  | interfaceHeader label =>
    simp only
    split <;> rfl
  | _ => rfl

theorem names_append :
    names (ls ++ [l]) = names ls ++ match l with
      | .sectionHeader title => [sectionKey title]
      | _ => [] := by
  rw [names, List.filterMap_append, names]
  cases l <;> rfl

end Outline

end GatewayConfig
