import GatewayConfig.Interface

/-! # Documents

A configuration in memory: named sections of entries, the order in which sections are written,
and the interfaces. Values stay texts. An interface's place in the list changes under edits, so
each is held in a slot under an id that stays with it.
-/

namespace GatewayConfig

def rootSection : Text := "reticulum".toList

def loggingSection : Text := "logging".toList

def interfacesSection : Text := "interfaces".toList

/-- The sections that every document has, in the order in which missing ones are added. -/
def reservedSections : List Text := [rootSection, loggingSection, interfacesSection]

structure Section where
  name : Text
  entries : List Entry
  deriving DecidableEq, Repr

namespace Sections

def find? (sections : List Section) (name : Text) : Option (List Entry) :=
  (sections.find? (·.name == name)).map (·.entries)

/-- Change the entries under a name. A name that is missing is added without entries first. -/
def update (name : Text) (edit : List Entry → List Entry) : List Section → List Section
  | [] => [⟨name, edit []⟩]
  | s :: rest =>
    if s.name = name then { s with entries := edit s.entries } :: rest
    else s :: update name edit rest

/-- Equality of the two lists as maps from names to entries. -/
def sameMap (a b : List Section) : Bool :=
  a.all (fun s => find? a s.name == find? b s.name) &&
    b.all (fun s => find? a s.name == find? b s.name)

end Sections

/-- What an interface is addressed by while it lives in a document. -/
structure InterfaceId where
  value : Nat
  deriving DecidableEq, Repr

structure Slot where
  id : InterfaceId
  interface : Interface
  deriving DecidableEq, Repr

/-- The interfaces under consecutive ids. -/
def Slot.number (first : Nat) (interfaces : List Interface) : List Slot :=
  (interfaces.zipIdx first).map fun (i, n) => ⟨⟨n⟩, i⟩

structure Document where
  sections : List Section
  order : List Text
  slots : List Slot
  deriving DecidableEq, Repr

namespace Document

def interfaces (d : Document) : List Interface := d.slots.map (·.interface)

def entries (d : Document) (name : Text) : List Entry := (Sections.find? d.sections name).getD []

/-- Change the entries of a section, which is created and listed if need be. -/
def editSection (d : Document) (name : Text) (edit : List Entry → List Entry) : Document :=
  { d with
    sections := Sections.update name edit d.sections
    order := if d.order.contains name then d.order else d.order ++ [name] }

def addSection (d : Document) (name : Text) : Document := d.editSection name id

def addReserved (d : Document) : Document := reservedSections.foldl addSection d

def empty : Document := addReserved ⟨[], [], []⟩

def global? (d : Document) (key : Text) : Option Text := Entries.get? (d.entries rootSection) key

def setGlobal (d : Document) (key value : Text) : Document :=
  d.editSection rootSection (Entries.set · key value)

def append (d : Document) (s : Slot) : Document := { d with slots := d.slots ++ [s] }

def index? (d : Document) (id : InterfaceId) : Option Nat := d.slots.findIdx? (·.id == id)

def interface? (d : Document) (id : InterfaceId) : Option Interface :=
  (d.slots.find? (·.id == id)).map (·.interface)

def remove (d : Document) (id : InterfaceId) : Document :=
  { d with slots := d.slots.eraseP (·.id == id) }

/-- Take the interface with the id out of the list, at its position. There is no result when no
interface has the id. -/
def take? (d : Document) (id : InterfaceId) : Option (Slot × Document) := do
  let position ← d.index? id
  let s ← d.slots[position]?
  return (s, { d with slots := d.slots.eraseIdx position })

def updateInterface (d : Document) (id : InterfaceId) (edit : Interface → Interface) : Document :=
  { d with slots := go d.slots }
where
  go : List Slot → List Slot
    | [] => []
    | s :: rest =>
      if s.id = id then { s with interface := edit s.interface } :: rest else s :: go rest

/-- Move the interface at one position to another. There is no result when either position is
out of range. -/
def move? (d : Document) (source target : Nat) : Option Document := do
  let s ← d.slots[source]?
  guard (target < d.slots.length)
  return { d with slots := (d.slots.eraseIdx source).insertIdx target s }

/-- The sections that show in the written form, in its order: the reserved ones and those with
entries. -/
def significantSections (d : Document) : List Section :=
  (d.order.map fun name => ⟨name, d.entries name⟩).filter fun s =>
    !s.entries.isEmpty || reservedSections.contains s.name

/-- Equality as far as the written form shows it, so without ids and idle empty sections. -/
def contentEq (a b : Document) : Bool :=
  a.significantSections == b.significantSections && a.interfaces == b.interfaces

/-- Equality of all that a document holds, the sections taken as a map. -/
def same (a b : Document) : Bool :=
  Sections.sameMap a.sections b.sections && a.order == b.order && a.slots == b.slots

end Document

end GatewayConfig
