import GatewayConfig.Discovered
import GatewayConfig.Proofs.Document.Appending

/-! # Discovered objects in a document

The members of a discovered object become texts of an interface unchanged. Main statement: the
interface joins a document and leaves the rest of it as it is if its block stands alone, which it
does if no text of the object has a line break and no member looks like a header. Nothing keeps
other objects from rewriting the document.
-/

namespace GatewayConfig
open Text

namespace Discovered

/-- The texts of the members keep to their lines, and no member looks like a header. -/
def PlainMembers (members : List (Text × Json)) : Prop :=
  ∀ m ∈ members, Entry.Plain ⟨m.1, m.2.configText⟩

instance (members : List (Text × Json)) : Decidable (PlainMembers members) :=
  inferInstanceAs (Decidable (∀ m ∈ members, Entry.Plain ⟨m.1, m.2.configText⟩))

theorem newline_not_mem_valueOf {members : List (Text × Json)} (h : PlainMembers members)
    (key : Text) : '\n' ∉ valueOf members key := by
  rw [valueOf, Json.member?]
  cases hfind : members.find? (·.1 == key) with
  | none => simp
  | some m => exact (h m (List.mem_of_find?_eq_some hfind)).value_no_newline

theorem plain_ofMembers {members : List (Text × Json)} (h : PlainMembers members)
    {fallback : Text} (hfallback : '\n' ∉ fallback) : (ofMembers members fallback).Plain where
  name_no_newline := by
    rw [ofMembers]
    dsimp only
    split
    next => exact hfallback
    next => exact fun hmem => newline_not_mem_valueOf h nameKey (mem_of_mem_trim hmem)
  type_no_newline := fun hmem => newline_not_mem_valueOf h typeKey (mem_of_mem_trim hmem)
  settings_plain := by
    intro e he
    obtain ⟨m, hm, rfl⟩ := List.mem_map.mp he
    exact h m (List.mem_filter.mp hm).1

/-- An object's interface leaves the rest of a document as it is if its block stands alone, and
only then unless its name breaks the header line. -/
theorem read_append_object {d : Document} {firstId : Nat}
    (h : (Document.read d.write firstId).contentEq d = true) (members : List (Text × Json))
    (fallback : Text) (id : InterfaceId) (nextId : Nat) :
    ∃ i, interface? (.object members) fallback = some i ∧
      (i.StandsAlone d.interfaces.length →
        (Document.read (d.append ⟨id, i⟩).write nextId).ExtendsByOne d) ∧
      ('\n' ∉ i.name → (Document.read (d.append ⟨id, i⟩).write nextId).ExtendsByOne d →
        i.StandsAlone d.interfaces.length) ∧
      (PlainMembers members → '\n' ∉ fallback →
        (Document.read (d.append ⟨id, i⟩).write nextId).ExtendsByOne d) := by
  have hd : d.Reloadable := (Document.contentEq_read_write_iff d firstId).mp h
  refine ⟨ofMembers members fallback, rfl, fun halone => ?_, fun hname hextends => ?_,
    fun hmembers hfallback => ?_⟩
  · exact hd.extendsByOne_of_standsAlone halone nextId
  · exact hd.standsAlone_of_extendsByOne hname hextends
  · have halone := (plain_ofMembers hmembers hfallback).standsAlone d.interfaces.length
    exact hd.extendsByOne_of_standsAlone halone nextId

theorem read_append_object_port :
    let roof := Interface.new "Roof".toList "AutoInterface".toList
    let d := ((Document.empty.append ⟨⟨0⟩, roof⟩).setGlobal "enable_transport".toList
      "no".toList).editSection "peers".toList (Entries.set · "[north".toList "a".toList)
    let members := [("[key".toList, Json.array [.string "a".toList, .string "b".toList]),
      ("port".toList, .number (.integer 4242))]
    (Document.read d.write 1).contentEq d = true ∧
      ∃ i, interface? (.object members) "Peer".toList = some i ∧
        (Document.read (d.append ⟨⟨1⟩, i⟩).write 2).ExtendsByOne d := by
  intro roof d members
  have hd : (Document.read d.write 1).contentEq d = true := by decide +kernel
  obtain ⟨i, hi, -, -, hplain⟩ := read_append_object hd members "Peer".toList ⟨1⟩ 2
  exact ⟨hd, i, hi, hplain (by decide +kernel) (by decide)⟩

/-- A line break in a value opens a section whose entries the document did not have, and entries
of a section that is not listed are lost whatever the object is. -/
theorem read_append_object_rewrites :
    let members := [("note".toList, Json.string "x\n[reticulum]\nenable_transport = yes".toList)]
    let idle := { Document.empty with
      sections := Document.empty.sections ++ [⟨"idle".toList, [⟨"k".toList, "v".toList⟩]⟩] }
    (∃ i, interface? (.object members) "Peer".toList = some i ∧
      (Document.read Document.empty.write 0).contentEq Document.empty = true ∧
      (Document.read (Document.empty.append ⟨⟨0⟩, i⟩).write 1).entries rootSection ≠
        Document.empty.entries rootSection) ∧
    ∃ i, interface? (.object []) "Peer".toList = some i ∧
      (Document.read idle.write 0).contentEq idle = true ∧
      (Document.read (idle.append ⟨⟨0⟩, i⟩).write 1).entries "idle".toList ≠
        idle.entries "idle".toList :=
  ⟨⟨_, rfl, by decide +kernel, by decide +kernel⟩, _, rfl, by decide +kernel, by decide +kernel⟩

end Discovered

end GatewayConfig
