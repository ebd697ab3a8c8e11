import GatewayConfig.Text.Basic

/-! # Entries and interfaces

An entry is a key with its value. A list of entries is looked up by the form of a key without
outer blanks and ASCII capitals, and the first entry that answers to a key stands for it. A value
may hold several items between commas, semicolons and line breaks, or a flag in one of ten words.
An interface has places of its own for its type and its enable flag, and every other line of its
block is a setting.
-/

namespace GatewayConfig

namespace ValueList

def isSeparator (c : Char) : Bool := c == ',' || c == ';' || c == '\r' || c == '\n'

/-- The texts without outer blanks, empty ones dropped. -/
def clean (items : List Text) : List Text := (items.map Text.trim).filter (!·.isEmpty)

def read (value : Text) : List Text := clean (value.splitOnP isSeparator)

def write (items : List Text) : Text := Text.join ", ".toList (clean items)

end ValueList

namespace Flag

def trueTokens : List Text := ["1".toList, "true".toList, "yes".toList, "on".toList, "y".toList]

def falseTokens : List Text := ["0".toList, "false".toList, "no".toList, "off".toList, "n".toList]

/-- The words that count as a flag, in the order in which they are offered. -/
def tokens : List Text :=
  ["yes".toList, "no".toList, "true".toList, "false".toList, "1".toList, "0".toList,
    "on".toList, "off".toList, "y".toList, "n".toList]

/-- Whether the value is a flag word up to case and outer blanks. -/
def isToken (value : Text) : Bool := tokens.contains (Text.keyForm value)

/-- The flag that a value stands for, or the default where it stands for none. -/
def read (value : Text) (default : Bool) : Bool :=
  if trueTokens.contains (Text.keyForm value) then true
  else if falseTokens.contains (Text.keyForm value) then false
  else default

def read? (value : Option Text) (default : Bool) : Bool :=
  match value with
  | some value => read value default
  | none => default

def write (flag : Bool) : Text := if flag then "yes".toList else "no".toList

end Flag

structure Entry where
  key : Text
  value : Text
  deriving DecidableEq, Repr

def Entry.answersTo (key : Text) (e : Entry) : Bool := Text.keyForm e.key == Text.keyForm key

namespace Entries

def index? (entries : List Entry) (key : Text) : Option Nat :=
  entries.findIdx? (·.answersTo key)

/-- The value of the first entry for the key. -/
def get? (entries : List Entry) (key : Text) : Option Text :=
  (entries.find? (·.answersTo key)).map (·.value)

/-- Give the key a value: the first entry for it keeps its place and spelling, and a key without
an entry gets one at the end. -/
def set : List Entry → Text → Text → List Entry
  | [], key, value => [⟨key, value⟩]
  | e :: rest, key, value =>
    if e.answersTo key then { e with value } :: rest else e :: set rest key value

/-- Drop the first entry for the key. -/
def erase (entries : List Entry) (key : Text) : List Entry :=
  entries.eraseP (·.answersTo key)

def getList (entries : List Entry) (key : Text) : List Text :=
  match get? entries key with
  | some value => ValueList.read value
  | none => []

/-- Give the key a list value. A list without items takes the key away. -/
def setList (entries : List Entry) (key : Text) (items : List Text) : List Entry :=
  let value := ValueList.write items
  if value.isEmpty then erase entries key else set entries key value

end Entries

/-- The two spellings of the enable flag. A block keeps the one it was written with. -/
inductive EnableKey
  | enabled
  | interfaceEnabled
  deriving DecidableEq, Repr

namespace EnableKey

def text : EnableKey → Text
  | enabled => "enabled".toList
  | interfaceEnabled => "interface_enabled".toList

def ofText? (t : Text) : Option EnableKey :=
  [enabled, interfaceEnabled].find? fun k => Text.sameAscii k.text t

end EnableKey

def typeKey : Text := "type".toList

structure Interface where
  name : Text
  type : Text
  enabled : Bool := true
  enableKey : EnableKey := .enabled
  settings : List Entry := []
  deriving DecidableEq, Repr

def Interface.new (name type : Text) : Interface := { name, type }

inductive SettingKey
  | blank
  | type
  | enable (spelling : EnableKey)
  | setting
  deriving DecidableEq, Repr

/-- The part of a block that a key addresses, whatever its case and outer blanks. -/
def SettingKey.ofText (key : Text) : SettingKey :=
  let form := Text.keyForm key
  if form.isEmpty then blank
  else if form = typeKey then type
  else match EnableKey.ofText? form with
    | some spelling => enable spelling
    | none => setting

namespace Interface

def setting? (i : Interface) (key : Text) : Option Text := Entries.get? i.settings key

/-- Write one line of the block. A blank key changes nothing. -/
def set (i : Interface) (key value : Text) : Interface :=
  match SettingKey.ofText key with
  | .blank => i
  | .type => { i with type := Text.trim value }
  | .enable spelling => { i with enabled := Flag.read value true, enableKey := spelling }
  | .setting => { i with settings := Entries.set i.settings (Text.trim key) value }

def erase (i : Interface) (key : Text) : Interface :=
  { i with settings := Entries.erase i.settings key }

/-- The first value that is not blank among those of the keys, in their order. -/
def firstValue? (i : Interface) (keys : List Text) : Option Text :=
  (keys.filterMap i.setting?).find? (!Text.blank ·)

def hasAnyValue (i : Interface) (keys : List Text) : Bool := (i.firstValue? keys).isSome

end Interface

end GatewayConfig
