import GatewayConfig.Document.Format
import GatewayConfig.Json.Value

/-! # Discovered interfaces

The runtime hands over an interface that it has come across as a snippet of configuration text
or as a JSON object of settings. Both become an interface that can be added to a document.
-/

namespace GatewayConfig

def defaultDiscoveredName : Text := "Discovered Interface".toList

mutual

/-- A JSON value as it is written in a configuration. -/
def Json.configText : Json → Text
  | .null => []
  | .bool flag => Flag.write flag
  | .number n => n.text
  | .string t => t
  | .array items => ValueList.write (Json.configTexts items)
  | .object members => Json.compact (.object members)

def Json.configTexts : List Json → List Text
  | [] => []
  | v :: rest => Json.configText v :: Json.configTexts rest

end

namespace Discovered

/-- The text that is read for a snippet. Where the snippet opens no interface, it is taken for
the inside of one with the given name. -/
def frame (name t : Text) : Text :=
  let header := "[".toList ++ interfacesSection ++ "]".toList
  if Text.contains header t then t
  else if "[[".toList.isPrefixOf t then header ++ "\n".toList ++ t ++ "\n".toList
  else header ++ "\n[[".toList ++ name ++ "]]\n".toList ++ t ++ "\n".toList

def ofSnippet? (t name : Text) : Option Interface :=
  let t := Text.trim t
  if t.isEmpty then none else (Interface.readAll (frame name t)).head?

def nameKey : Text := "name".toList

/-- The text under a key, empty where there is none. -/
def valueOf (members : List (Text × Json)) (key : Text) : Text :=
  match Json.member? members key with
  | some v => v.configText
  | none => []

def isSettingKey (key : Text) : Bool :=
  SettingKey.ofText key == .setting && Text.keyForm key != nameKey

def enabledText (members : List (Text × Json)) : Text :=
  let preferred := valueOf members EnableKey.interfaceEnabled.text
  if preferred.isEmpty then valueOf members EnableKey.enabled.text else preferred

def ofMembers (members : List (Text × Json)) (fallback : Text) : Interface :=
  let name := Text.trim (valueOf members nameKey)
  { name := if name.isEmpty then fallback else name
    type := Text.trim (valueOf members typeKey)
    enabled := Flag.read (enabledText members) true
    enableKey := if (Json.member? members EnableKey.interfaceEnabled.text).isSome
      then .interfaceEnabled else .enabled
    settings := (members.filter fun m => isSettingKey m.1).map fun (key, value) =>
      ⟨key, value.configText⟩ }

/-- The interface that a discovered entry describes; there is none in a value that is neither a
text with an interface nor an object. -/
def interface? (entry : Json) (fallback : Text) : Option Interface :=
  match entry with
  | .string t => ofSnippet? t fallback
  | .object members => some (ofMembers members fallback)
  | _ => none

end Discovered

end GatewayConfig
