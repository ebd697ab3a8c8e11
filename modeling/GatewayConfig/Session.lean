import GatewayConfig.Discovered
import GatewayConfig.Document.Format

/-! # Editing sessions

Edits of a document as data, and their effect. A session counts the ids that it has given out,
so that no two interfaces ever get the same one.
-/

namespace GatewayConfig

inductive EntriesEdit
  | set (key value : Text)
  | erase (key : Text)
  | setList (key : Text) (items : List Text)
  /-- An entry as it is, even beside another one for its key. -/
  | append (key value : Text)
  /-- Other entries in place of all. -/
  | replace (entries : List Entry)
  deriving DecidableEq, Repr

def EntriesEdit.apply (entries : List Entry) : EntriesEdit → List Entry
  | set key value => Entries.set entries key value
  | erase key => Entries.erase entries key
  | setList key items => Entries.setList entries key items
  | append key value => entries ++ [⟨key, value⟩]
  | replace others => others

inductive InterfaceEdit
  | set (key value : Text)
  | erase (key : Text)
  | enable (flag : Bool)
  | rename (name : Text)
  | retype (type : Text)
  | respell (key : EnableKey)
  /-- A setting as it is, even beside another one for its key. -/
  | append (key value : Text)
  deriving DecidableEq, Repr

def InterfaceEdit.apply (i : Interface) : InterfaceEdit → Interface
  | set key value => i.set key value
  | erase key => i.erase key
  | enable flag => { i with enabled := flag }
  | rename name => { i with name }
  | retype type => { i with type }
  | respell key => { i with enableKey := key }
  | append key value => { i with settings := i.settings ++ [⟨key, value⟩] }

inductive Edit
  | addSection (name : Text)
  | editSection (name : Text) (edit : EntriesEdit)
  | setGlobal (key value : Text)
  | addInterface (name type : Text)
  /-- Add the interface that a discovered entry describes, if it describes one. -/
  | addDiscovered (entry : Json) (fallback : Text)
  | removeInterface (id : InterfaceId)
  /-- Nothing changes if a position is out of range. -/
  | moveInterface (source target : Nat)
  | editInterface (id : InterfaceId) (edit : InterfaceEdit)

structure Session where
  document : Document
  nextId : Nat
  deriving DecidableEq, Repr

namespace Session

/-- A session on a document without interfaces. -/
def new : Session := ⟨Document.empty, 0⟩

/-- A session on the document that a text holds, with ids from `firstId` on. -/
def openText (t : Text) (firstId : Nat) : Session :=
  let d := Document.read t firstId
  ⟨d, firstId + d.slots.length⟩

/-- Write the document and read it again. The interfaces get new ids. -/
def reopen (s : Session) : Session := openText s.document.write s.nextId

def add (s : Session) (i : Interface) : Session :=
  ⟨s.document.append ⟨⟨s.nextId⟩, i⟩, s.nextId + 1⟩

def apply (s : Session) : Edit → Session
  | .addSection name => { s with document := s.document.addSection name }
  | .editSection name edit =>
    { s with document := s.document.editSection name (EntriesEdit.apply · edit) }
  | .setGlobal key value => { s with document := s.document.setGlobal key value }
  | .addInterface name type => s.add (Interface.new name type)
  | .addDiscovered entry fallback =>
    match Discovered.interface? entry fallback with
    | some i => s.add i
    | none => s
  | .removeInterface id => { s with document := s.document.remove id }
  | .moveInterface source target =>
    { s with document := (s.document.move? source target).getD s.document }
  | .editInterface id edit =>
    { s with document := s.document.updateInterface id (InterfaceEdit.apply · edit) }

def run (s : Session) (edits : List Edit) : Session := edits.foldl apply s

end Session

end GatewayConfig
