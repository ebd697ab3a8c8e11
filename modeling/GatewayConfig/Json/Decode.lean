import GatewayConfig.Document
import GatewayConfig.Json.Source
import GatewayConfig.Schema.Catalogue
import GatewayConfig.Validation.Fault

/-! # Decoding records

The records that are kept as JSON. A record is an object, in which a key that belongs to it
stands at most once and other keys are passed over, or an array of its fields in their order.
-/

namespace GatewayConfig.Json

namespace Source

def text? : Source → Option Text
  | string parts => textOfParts? parts
  | _ => none

def flag? : Source → Option Bool
  | bool flag => some flag
  | _ => none

/-- A natural number of 64 bits. -/
def natural? : Source → Option Nat
  | number l => l.integer?.bind Int.toNat?
  | _ => none

def items? (decode : Source → Option α) : Source → Option (List α)
  | array items => items.mapM decode
  | _ => none

def optional? (decode : Source → Option α) : Source → Option (Option α)
  | null => some none
  | s => (decode s).map some

def members? : Source → Option (List (Text × Source))
  | object members => members.mapM fun (key, value) => (textOfParts? key).map (·, value)
  | _ => none

/-- The fields of a record in the order of their names, each if it is there. -/
def fields? (names : List Text) : Source → Option (List (Option Source))
  | array items =>
    if items.length ≤ names.length then
      some (items.map some ++ List.replicate (names.length - items.length) none)
    else none
  | s => do
    let members ← s.members?
    names.mapM fun name =>
      match members.filter (·.1 == name) with
      | [] => some none
      | [(_, value)] => some (some value)
      | _ => none

/-- The name of a case: a string, or an object with null under the name. -/
def case? : Source → Option Text
  | string parts => textOfParts? parts
  | object [(key, null)] => textOfParts? key
  | _ => none

end Source

def needed (decode : Source → Option α) (field : Option Source) : Option α := field.bind decode

def orDefault (default : α) (decode : Source → Option α) : Option Source → Option α
  | some s => decode s
  | none => some default

def entry? (s : Source) : Option Entry := do
  match ← s.fields? ["key".toList, "value".toList] with
  | [key, value] => return ⟨← needed Source.text? key, ← needed Source.text? value⟩
  | _ => none

end Json

open Json

/-- The number with the given hexadecimal digits, written in groups of the given lengths with
hyphens between them. -/
private def groupedHex? (lengths : List Nat) (t : Text) : Option Nat :=
  let groups := t.splitOn '-'
  if groups.map List.length = lengths then hexNumber? groups.flatten else none

/-- The id that a universally unique identifier stands for. It is written with or without
hyphens, and with them also in braces or as a resource name. -/
def InterfaceId.ofText? (t : Text) : Option InterfaceId :=
  let hyphenated := groupedHex? [8, 4, 4, 4, 12]
  let value :=
    if t.length = 32 then groupedHex? [32] t
    else if t.length = 36 then hyphenated t
    else if t.length = 38 then (Text.between? ['\x7b'] ['\x7d'] t).bind hyphenated
    else if t.length = 45 then ("urn:uuid:".toList.isPrefixOf? t).bind hyphenated
    else none
  value.map InterfaceId.mk

private def hexPadded (width n : Nat) : Text :=
  let digits := Nat.toDigits 16 n
  List.replicate (width - digits.length) '0' ++ digits

def InterfaceId.text (id : InterfaceId) : Text :=
  let digits := hexPadded 32 id.value
  "iface-".toList ++ Text.join "-".toList
    [digits.take 8, (digits.drop 8).take 4, (digits.drop 12).take 4, (digits.drop 16).take 4,
      digits.drop 20]

namespace Json

def slot? (s : Source) : Option Slot := do
  match ← s.fields? ["id".toList, "name".toList, "type".toList, "enabled".toList,
      "enable_key_style".toList, "settings".toList] with
  | [id, name, type, enabled, enableKey, settings] =>
    let id ← (← needed Source.text? id) |> InterfaceId.ofText?
    let name ← needed Source.text? name
    let type ← needed Source.text? type
    let enabled ← needed Source.flag? enabled
    let spelling ← needed Source.case? enableKey
    let enableKey ← [EnableKey.enabled, .interfaceEnabled].find? (·.text == spelling)
    let settings ← needed (Source.items? entry?) settings
    return ⟨id, { name, type, enabled, enableKey, settings }⟩
  | _ => none

/-- Sections as an object; of two under one name the last one counts. -/
def sections? (s : Source) : Option (List Section) := do
  let members ← s.members?
  let sections ← members.mapM fun (name, entries) =>
    (entries.items? entry?).map (Section.mk name ·)
  return sections.foldl (fun done s => Sections.update s.name (fun _ => s.entries) done) []

def document? (s : Source) : Option Document := do
  match ← s.fields? ["sections".toList, "section_order".toList, "interfaces".toList] with
  | [sections, order, interfaces] =>
    let sections ← needed sections? sections
    let order ← needed (Source.items? Source.text?) order
    let slots ← needed (Source.items? slot?) interfaces
    return { sections, order, slots }
  | _ => none

def issue? (s : Source) : Option Issue := do
  match ← s.fields? ["level".toList, "path".toList, "message".toList] with
  | [level, path, message] =>
    let level ← (← needed Source.case? level) |> Level.ofText?
    return ⟨level, ← needed Source.text? path, ← needed Source.text? message⟩
  | _ => none

def verdict? (s : Source) : Option Verdict := do
  match ← s.fields? ["valid".toList, "errors".toList, "warnings".toList] with
  | [valid, errors, warnings] =>
    return ⟨← needed Source.flag? valid, ← needed (Source.items? issue?) errors,
      ← needed (Source.items? issue?) warnings⟩
  | _ => none

def capabilities? (s : Source) : Option Capabilities := do
  let unknown : Capabilities := {}
  let names := Source.items? Source.text?
  match ← s.fields? ["runtime_active".toList, "os".toList, "identity_hash_hex_length".toList,
      "supported_interface_types".toList, "unsupported_interface_types".toList,
      "discoverable_interface_types".toList, "autoconnect_interface_types".toList,
      "rns_version".toList] with
  | [active, os, length, supported, unsupported, discoverable, autoconnect, version] =>
    let runtimeActive ← orDefault unknown.runtimeActive Source.flag? active
    let os ← orDefault unknown.os Source.text? os
    let identityHashHexLength ← orDefault unknown.identityHashHexLength Source.natural? length
    let supportedTypes ← orDefault unknown.supportedTypes names supported
    let unsupportedTypes ← orDefault unknown.unsupportedTypes names unsupported
    let discoverableTypes ← orDefault unknown.discoverableTypes names discoverable
    let autoconnectTypes ← orDefault unknown.autoconnectTypes names autoconnect
    let runtimeVersion ← orDefault unknown.runtimeVersion Source.text? version
    return ⟨runtimeActive, os, identityHashHexLength, supportedTypes, unsupportedTypes,
      discoverableTypes, autoconnectTypes, runtimeVersion⟩
  | _ => none

end Json

def Capabilities.read? (t : Text) : Option Capabilities := (Source.read? t).bind capabilities?

def Document.ofJson? (t : Text) : Option Document := (Source.read? t).bind document?

def Verdict.ofJson? (t : Text) : Option Verdict := (Source.read? t).bind verdict?

end GatewayConfig
