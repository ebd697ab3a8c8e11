import GatewayConfig.Document
import GatewayConfig.Text.Basic
import GatewayConfig.Text.Lowercase

/-! # The text format

A text is read line by line. The shapes of a line are tried in a fixed order: blank, comment,
interface header, section header, entry. Reading never fails: a line that has no place, such as an
entry before the first header, is dropped, so that every text opens as a document. A document is
written as blocks of lines with one blank line between neighbours: a block for each section that
shows, and one for each interface right after the interfaces' own section.
-/

namespace GatewayConfig

inductive Line
  | blank
  | comment
  /-- A label between double brackets. -/
  | interfaceHeader (label : Text)
  | sectionHeader (name : Text)
  /-- A bracketed line whose name cannot be a section's name. -/
  | malformedHeader
  | entry (key value : Text)
  | unrecognized
  deriving DecidableEq, Repr

namespace Line

/-- Whether brackets around the name make a line that reads as a section header again: the name
is not blank and does not itself stand in brackets. -/
def isSectionName (name : Text) : Bool :=
  let name := Text.trim name
  !name.isEmpty && !("[".toList.isPrefixOf name && "]".toList.isSuffixOf name)

def interfaceLabel? (line : Text) : Option Text :=
  (Text.between? "[[".toList "]]".toList line).filter (!·.isEmpty)

def ofTrimmed (line : Text) : Line :=
  match interfaceLabel? line with
  | some label => interfaceHeader label
  | none =>
    match Text.between? "[".toList "]".toList line with
    | some name => if isSectionName name then sectionHeader name else malformedHeader
    | none =>
      match line.span (· != '=') with
      | (key, _ :: value) => entry (Text.trim key) (Text.trim value)
      | (_, []) => unrecognized

def classify (raw : Text) : Line :=
  match Text.trim raw with
  | [] => blank
  | '#' :: _ => comment
  | ';' :: _ => comment
  | line => ofTrimmed line

end Line

/-- Where the next entry goes. -/
inductive Place
  /-- Nowhere: before the first header or after a malformed one. -/
  | outside
  /-- Into the named section. -/
  | inSection (name : Text)
  /-- Into the interface that was opened last. -/
  | inInterface
  deriving DecidableEq, Repr

/-- Whether an interface header has an effect at the place. -/
def Place.allowsInterface : Place → Bool
  | outside => false
  | inSection name => name == interfacesSection
  | inInterface => true

def sectionKey (name : Text) : Text := Text.lowercase (Text.trim name)

/-- Take one line of an interface's block, its key and value without outer blanks. -/
def Interface.enter (i : Interface) (key value : Text) : Interface :=
  let lower := Text.lowerAscii key
  if lower = typeKey then { i with type := value }
  else match EnableKey.ofText? lower with
    | some spelling => { i with enabled := Flag.read value true, enableKey := spelling }
    | none => { i with settings := Entries.set i.settings key value }

def Interface.updateLast (edit : Interface → Interface) : List Interface → List Interface
  | [] => []
  | [i] => [edit i]
  | i :: j :: rest => i :: updateLast edit (j :: rest)

structure Reading where
  place : Place
  document : Document
  interfaces : List Interface

namespace Reading

def start : Reading := ⟨.outside, ⟨[], [], []⟩, []⟩

def enter (r : Reading) (key value : Text) : Reading :=
  match r.place with
  | .outside => r
  | .inSection name =>
    { r with document := r.document.editSection name (· ++ [⟨key, value⟩]) }
  | .inInterface => { r with interfaces := Interface.updateLast (·.enter key value) r.interfaces }

def step (r : Reading) : Line → Reading
  | .interfaceHeader label =>
    if r.place.allowsInterface then
      { r with
        place := .inInterface
        interfaces := r.interfaces ++ [Interface.new (Text.trim label) []] }
    else r
  | .sectionHeader name =>
    { r with
      place := .inSection (sectionKey name)
      document := r.document.addSection (sectionKey name) }
  | .malformedHeader => { r with place := .outside }
  | .entry key value => if key.isEmpty then r else r.enter key value
  | .blank | .comment | .unrecognized => r

def ofText (t : Text) : Reading := ((Text.lines t).map Line.classify).foldl step start

end Reading

/-- Read a text. The interfaces get consecutive ids. -/
def Document.read (t : Text) (firstId : Nat) : Document :=
  let r := Reading.ofText t
  { r.document.addReserved with slots := Slot.number firstId r.interfaces }

def Interface.readAll (t : Text) : List Interface := (Reading.ofText t).interfaces

/-- The line of an entry, without blanks at its end. -/
def Entry.line (e : Entry) : Text := Text.trimEnd (e.key ++ " = ".toList ++ e.value)

/-- The lines of the entries whose keys are not blank. -/
def Entries.lines (entries : List Entry) : List Text :=
  (entries.filter (!Text.blank ·.key)).map Entry.line

def sectionHeaderLine (name : Text) : Text := "[".toList ++ name ++ "]".toList

namespace Interface

/-- The name under which the interface at a position is written. A blank name is replaced by
one that counts from one. -/
def title (i : Interface) (position : Nat) : Text :=
  let name := Text.trim i.name
  if name.isEmpty then "Interface ".toList ++ Text.ofNat (position + 1) else name

def block (i : Interface) (position : Nat) : List Text :=
  ("[[".toList ++ i.title position ++ "]]".toList) ::
    ((if Text.blank i.type then [] else [Entry.line ⟨typeKey, i.type⟩]) ++
      (i.enableKey.text ++ " = ".toList ++ Flag.write i.enabled) :: Entries.lines i.settings)

end Interface

namespace Document

/-- The sections in the order of writing: those listed, then the reserved ones not listed. -/
def writingOrder (d : Document) : List Text :=
  d.order ++ reservedSections.filter (!d.order.contains ·)

def sectionBlock (d : Document) (name : Text) : List Text :=
  sectionHeaderLine name :: Entries.lines (d.entries name)

/-- The blocks written for a name. The root and logging sections show even without entries. -/
def blocksOf (d : Document) (name : Text) : List (List Text) :=
  if name = interfacesSection then
    d.sectionBlock name :: d.interfaces.mapIdx fun position i => i.block position
  else if (d.entries name).isEmpty && name != rootSection && name != loggingSection then []
  else [d.sectionBlock name]

def blocks (d : Document) : List (List Text) := d.writingOrder.flatMap d.blocksOf

def write (d : Document) : Text :=
  Text.join "\n\n".toList (d.blocks.map (Text.join "\n".toList)) ++ "\n".toList

end Document

end GatewayConfig
