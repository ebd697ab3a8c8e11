import GatewayConfig.Document
import GatewayConfig.Numeric.Binary64
import GatewayConfig.Schema.Catalogue
import GatewayConfig.Schema.Field
import GatewayConfig.Text.Pattern
import GatewayConfig.Validation.Fault

/-! # Checking a document

Errors are the findings about the root section followed by those about each interface in turn.
What is found about an interface does not depend on its position, which only enters its path.
Warnings compare the interfaces with the discovery settings. Hosts, ports and identities are only
checked for plausibility.
-/

namespace GatewayConfig

namespace Address

def isHexDigit (c : Char) : Bool :=
  c.isDigit || ('a' ≤ c && c ≤ 'f') || ('A' ≤ c && c ≤ 'F')

def wildcards : List Text := ["*".toList, "0.0.0.0".toList, "::".toList]

def nameRanges : List Text.CodeRange :=
  [.between 'a' 'z', .between '0' '9', .only '_', .only '.', .only '-']

def bracketedRanges : List Text.CodeRange := [.between '0' '9', .between 'a' 'f', .only ':']

/-- A name or a dotted address, or else an address in brackets, in any case. -/
def hostPattern : Pattern :=
  Pattern.anyCase <| .either (.oneOrMore (.oneOf nameRanges))
    (.seq (.char '[') (.seq (.oneOrMore (.oneOf bracketedRanges)) (.char ']')))

/-- A number up to 255. Three digits do not start with a zero. -/
def octetPattern : Pattern :=
  .either (.seq (.char '2') (.seq (.char '5') (.oneOf [.between '0' '5'])))
    (.either (.seq (.char '2') (.seq (.oneOf [.between '0' '4']) (.oneOf [.between '0' '9'])))
      (.seq (.optional (.char '1'))
        (.seq (.optional (.oneOf [.between '0' '9'])) (.oneOf [.between '0' '9']))))

def dottedPattern : Pattern :=
  .seq octetPattern (.times 3 (.seq (.char '.') octetPattern))

/-- Whether the value can be a host: a wildcard, or a text with one of the shapes of hosts. -/
def isHost (value : Text) : Bool :=
  let host := Text.trim value
  !host.isEmpty &&
    (wildcards.contains host || hostPattern.accepts host || dottedPattern.accepts host)

def maxPort : Nat := 65535

/-- Whether the value is a whole number from one to the greatest port. -/
def isPort (value : Text) : Bool :=
  (numberOf? value).any fun x =>
    x.isIntegral && (1 : Rat) ≤ x.value && x.value ≤ (maxPort : Rat)

/-- Whether the value is a whole number of bytes in hexadecimal, and not empty. -/
def isIdentity (value : Text) : Bool :=
  let digits := Text.trim value
  !digits.isEmpty && digits.length % 2 == 0 && digits.all isHexDigit

/-- Whether a key, in lower case, names a setting that holds a host. -/
def isHostKey (key : Text) : Bool :=
  "_host".toList.isSuffixOf key || "_ip".toList.isSuffixOf key ||
    ["reachable_on".toList, "listen_ip".toList, "listen_on".toList, "remote".toList].contains key

/-- The types whose plain port is a network port rather than a device. -/
def hasNetworkPort (type : Text) : Bool :=
  match InterfaceType.ofName? type with
  | some .backbone | some .tcpServer | some .udp => true
  | _ => false

/-- Whether a key, in lower case, names a setting of the type that holds a network port. -/
def isPortKey (type key : Text) : Bool :=
  "_port".toList.isSuffixOf key || (key == "port".toList && hasNetworkPort type)

end Address

/-- The list of identities whose announcements are trusted. -/
def sourcesKey : Text := "interface_discovery_sources".toList

def interfacePath (position : Nat) : Text :=
  "interfaces[".toList ++ Text.ofNat position ++ "]".toList

def itemPath (key : Text) (position : Nat) : Text :=
  key ++ "[".toList ++ Text.ofNat position ++ "]".toList

def Entries.discoveryFindings (root : List Entry) : List Finding :=
  (Catalogue.globalDiscoveryFields.flatMap fun f => f.findings (Entries.get? root f.key)) ++
    ((Entries.getList root sourcesKey).zipIdx.filter fun (source, _) =>
      !Address.isIdentity source).map fun (_, n) => ⟨itemPath sourcesKey n, .sourceIdentity⟩

def Entry.addressFindings (type : Text) (e : Entry) : List Finding :=
  let key := Text.keyForm e.key
  if key.isEmpty || Text.blank e.value then []
  else
    let badHost := Address.isHostKey key && !Address.isHost e.value
    let badPort := Address.isPortKey type key && !Address.isPort e.value
    (if badHost then [⟨e.key, .badHost e.key⟩] else []) ++
      (if badPort then [⟨e.key, .badPort e.key⟩] else [])

namespace Interface

def headFindings (i : Interface) : List Finding :=
  let name := Text.trim i.name
  (if name.isEmpty then [⟨"name".toList, .nameMissing⟩]
    else if nameMax < name.length then [⟨"name".toList, .nameTooLong⟩] else []) ++
  (if Text.blank i.type then [⟨typeKey, .typeMissing⟩] else [])

def fieldFindings (i : Interface) : List Finding :=
  (Catalogue.allFields i.type).flatMap fun f => f.findings (i.firstValue? f.candidateKeys)

def requirementFindings (i : Interface) : List Finding :=
  ((Requirement.ofTypeName i.type).filter (!i.hasAnyValue ·.keys)).map fun r =>
    ⟨r.key, .unmet r i.type⟩

def findings (i : Interface) : List Finding :=
  i.headFindings ++ i.fieldFindings ++ i.requirementFindings ++
    i.settings.flatMap (·.addressFindings i.type)

def isDiscoverable (i : Interface) : Bool := Flag.read? (i.setting? "discoverable".toList) false

def mode (i : Interface) : Text :=
  (((i.setting? "interface_mode".toList).or (i.setting? "mode".toList)).map Text.keyForm).getD []

/-- The modes that go with announcing an interface. -/
def servingModes : List Text := ["gateway".toList, "access_point".toList, "ap".toList]

/-- Whether the interface announces itself in a mode that does not go with it. -/
def isMismatched (i : Interface) : Bool :=
  i.isDiscoverable && !i.mode.isEmpty && !servingModes.contains i.mode

end Interface

namespace Document

def errors (d : Document) : List Issue :=
  (Entries.discoveryFindings (d.entries rootSection)).map (·.issue rootSection) ++
    (d.interfaces.mapIdx fun position i =>
      i.findings.map (·.issue (interfacePath position))).flatten

def discovers (d : Document) : Bool := Flag.read? (d.global? "discover_interfaces".toList) false

def autoconnects (d : Document) : Bool :=
  ((d.global? "autoconnect_discovered_interfaces".toList).bind numberOf?).any (0 < ·.value)

def modeWarnings (d : Document) : List Issue :=
  (d.interfaces.zipIdx.filter (·.1.isMismatched)).map fun (_, position) =>
    ⟨.warning, interfacePath position ++ ".discoverable".toList,
      "Discoverable is usually paired with gateway/access_point mode".toList⟩

def warnings (d : Document) : List Issue :=
  d.modeWarnings ++
  (if !d.discovers && d.interfaces.any (·.isDiscoverable) then
    [⟨.warning, rootSection ++ ".discover_interfaces".toList,
      ("Global discover_interfaces is disabled while " ++
        "one or more interfaces are discoverable").toList⟩]
    else []) ++
  (if !d.discovers && d.autoconnects then
    [⟨.warning, rootSection ++ ".autoconnect_discovered_interfaces".toList,
      "Auto-connect is configured but global discovery is disabled".toList⟩]
    else [])

def validate (d : Document) : Verdict := .ofIssues d.errors d.warnings

end Document

end GatewayConfig
