import GatewayConfig.Numeric.Binary64
import GatewayConfig.Schema.Field

/-! # The catalogue

The fields of every interface type, the fields that all types share, the fields of the root
section that govern discovery, and the groups in which types are shown. Under a report of what the
running gateway can do, a part of the catalogue remains open.
-/

namespace GatewayConfig

namespace Catalogue

private def literal (t : String) : Binary64 := (numberOf? t.toList).getD (.zero false)

private def choices (pairs : List (String × String)) : List Choice :=
  pairs.map fun (label, value) => ⟨label.toList, value.toList⟩

private def text (key label : String) : Field :=
  { key := key.toList, label := label.toList, kind := .text }

private def boolean (key label : String) : Field :=
  { key := key.toList, label := label.toList, kind := .boolean }

private def list (key label : String) : Field :=
  { key := key.toList, label := label.toList, kind := .list }

private def select (key label : String) (choices : List Choice) : Field :=
  { key := key.toList, label := label.toList, kind := .select choices }

private def number (key label : String) (min max step : Option String) : Field :=
  { key := key.toList, label := label.toList
    kind := .number (min.map literal) (max.map literal) (step.map literal) }

private def positive (key label : String) : Field := number key label "1" none "1"

private def counter (key label : String) : Field := number key label "0" none "1"

private def port (key label : String) : Field := number key label "1" "65535" "1"

private def aka (other : String) (f : Field) : Field :=
  { f with aliases := [other.toList] }

private def described (words : String) (f : Field) : Field :=
  { f with description := some words.toList }

private def hinted (words : String) (f : Field) : Field :=
  { f with placeholder := some words.toList }

/-- The type offered first for a new interface. -/
def defaultType : InterfaceType := .tcpClient

/-- The type that can be created only where the runtime says so. -/
def excludedType : InterfaceType := .rnodeIp

/-- The key of nested blocks, a field that is never shown by default. -/
def subinterfacesKey : Text := "subinterfaces".toList

def yesNo : List Choice := choices [("Yes", "yes"), ("No", "no")]

def modes : List Choice := choices [
  ("Full", "full"), ("Gateway", "gateway"), ("Gateway (gw)", "gw"),
  ("Access Point", "access_point"), ("Access Point (ap)", "ap"),
  ("Roaming", "roaming"), ("Boundary", "boundary")]

private def modulations : List Choice :=
  choices [("LoRa", "lora"), ("FSK", "fsk"), ("OFDM", "ofdm")]

private def parities : List Choice := choices [
  ("None", "none"), ("Even", "even"), ("Odd", "odd"), ("N", "N"), ("E", "E"), ("O", "O")]

private def stopBits : List Choice := choices [("1", "1"), ("1.5", "1.5"), ("2", "2")]

private def dataBits : List Choice := choices [("7", "7"), ("8", "8")]

private def scopes : List Choice := choices [
  ("Link", "link"), ("Admin", "admin"), ("Site", "site"),
  ("Organisation", "organisation"), ("Global", "global")]

private def addressTypes : List Choice :=
  choices [("Temporary", "temporary"), ("Permanent", "permanent")]

def globalDiscoveryFields : List Field := [
  boolean "discover_interfaces" "Discover interfaces"
    |> described "Enable Reticulum announce-and-listen discovery globally.",
  number "required_discovery_value" "Required discovery value" "0" "64" "1"
    |> described "Minimum stamp value required for accepted discovery announces.",
  counter "autoconnect_discovered_interfaces" "Auto-connect limit"
    |> described "Maximum number of discovered interfaces Reticulum may auto-connect.",
  list "interface_discovery_sources" "Discovery source identities"
    |> hinted "Comma-separated identity hashes"
    |> described "Optional allow-list of identity hashes trusted as discovery sources."]

def commonFields : List Field := [
  select "mode" "Mode" modes |> aka "interface_mode",
  boolean "outgoing" "Outgoing",
  positive "bitrate" "Bitrate",
  counter "announce_cap" "Announce cap",
  positive "ifac_size" "IFAC size",
  text "network_name" "Network name",
  text "passphrase" "Passphrase" |> aka "pass_phrase",
  boolean "ingress_control" "Ingress control",
  counter "announce_rate_target" "Announce target",
  counter "announce_rate_grace" "Announce grace",
  counter "announce_rate_penalty" "Announce penalty",
  boolean "bootstrap_only" "Bootstrap only",
  boolean "ignore_config_warnings" "Ignore warnings"]

def discoveryFields : List Field := [
  boolean "discoverable" "Discoverable",
  text "discovery_name" "Discovery name",
  number "announce_interval" "Announce interval (s)" "5" none "1",
  number "discovery_stamp_value" "Discovery stamp value" "0" "64" "1",
  boolean "discovery_encrypt" "Encrypt discovery payload",
  text "reachable_on" "Reachable on host",
  boolean "publish_ifac" "Publish IFAC credentials",
  number "latitude" "Latitude" "-90" "90" "0.000001",
  number "longitude" "Longitude" "-180" "180" "0.000001",
  number "height" "Height" none none "0.1",
  counter "discovery_frequency" "Discovery frequency",
  counter "discovery_bandwidth" "Discovery bandwidth",
  select "discovery_modulation" "Discovery modulation" modulations]

private def serialLine : List Field := [
  text "port" "Port",
  positive "speed" "Speed",
  select "databits" "Data bits" dataBits,
  select "parity" "Parity" parities,
  select "stopbits" "Stop bits" stopBits]

private def stationId : List Field := [
  counter "id_interval" "ID interval",
  text "id_callsign" "ID callsign"]

private def kissFields : List Field :=
  serialLine ++ [
    counter "preamble" "Preamble",
    counter "txtail" "TX tail",
    counter "persistence" "Persistence",
    counter "slottime" "Slot time",
    boolean "flow_control" "Flow control"] ++ stationId

def typeFields : InterfaceType → List Field
  | .auto => [
    text "group_id" "Group ID",
    select "multicast_address_type" "Multicast address type" addressTypes,
    select "discovery_scope" "Discovery scope" scopes,
    port "discovery_port" "Discovery port",
    port "data_port" "Data port",
    list "devices" "Devices",
    list "ignored_devices" "Ignored devices"]
  | .backbone => [
    text "listen_on" "Listen on host" |> aka "listen_ip",
    port "port" "Port" |> aka "listen_port",
    text "target_host" "Target host" |> aka "remote",
    port "target_port" "Target port",
    boolean "prefer_ipv6" "Prefer IPv6",
    text "device" "Device"]
  | .tcpServer => [
    text "listen_ip" "Listen IP",
    port "listen_port" "Listen port" |> aka "port",
    boolean "prefer_ipv6" "Prefer IPv6",
    text "device" "Device",
    boolean "i2p_tunneled" "I2P tunneled"]
  | .tcpClient => [
    text "target_host" "Target host",
    port "target_port" "Target port",
    positive "fixed_mtu" "Fixed MTU",
    boolean "kiss_framing" "KISS framing",
    boolean "i2p_tunneled" "I2P tunneled"]
  | .udp => [
    text "listen_ip" "Listen IP",
    port "listen_port" "Listen port" |> aka "port",
    text "forward_ip" "Forward IP",
    port "forward_port" "Forward port",
    text "device" "Device"]
  | .i2p => [
    list "peers" "Peers",
    boolean "connectable" "Connectable"]
  | .serial => serialLine
  | .kiss => kissFields
  | .ax25Kiss => kissFields ++ [
    text "callsign" "Callsign",
    number "ssid" "SSID" "0" "15" "1"]
  | .pipe => [
    text "command" "Command",
    number "respawn_delay" "Respawn delay" "0" none "0.1" |> aka "respawn_interval"]
  | .rnode =>
    [text "port" "Port",
      counter "frequency" "Frequency",
      counter "bandwidth" "Bandwidth",
      number "txpower" "TX power" none none "1",
      number "spreadingfactor" "Spreading factor" "7" "12" "1",
      number "codingrate" "Coding rate" "5" "8" "1",
      boolean "flow_control" "Flow control"] ++ stationId ++ [
      number "airtime_limit_short" "Airtime short limit" "0" "100" "0.1",
      number "airtime_limit_long" "Airtime long limit" "0" "100" "0.1"]
  | .rnodeMulti =>
    text "port" "Port" :: stationId ++ [
      text "subinterfaces" "Subinterfaces"
        |> hinted "Use advanced settings for nested subinterface blocks"
        |> described "RNodeMulti subinterface blocks remain editable from advanced settings."]
  | .rnodeIp => [
    text "target_host" "Target host",
    port "target_port" "Target port",
    text "password" "Password"]

/-- The keys of a type's fields that are shown by default. -/
def primaryKeys : InterfaceType → List Text
  | .auto => ["group_id", "discovery_scope", "discovery_port", "data_port", "devices",
      "ignored_devices"].map String.toList
  | .backbone => ["listen_on", "port", "target_host", "target_port"].map String.toList
  | .tcpServer => ["listen_ip", "listen_port"].map String.toList
  | .tcpClient => ["target_host", "target_port"].map String.toList
  | .udp => ["listen_ip", "listen_port", "forward_ip", "forward_port"].map String.toList
  | .i2p => ["peers"].map String.toList
  | .serial => ["port", "speed"].map String.toList
  | .kiss => ["port", "speed"].map String.toList
  | .ax25Kiss => ["port", "callsign", "ssid"].map String.toList
  | .pipe => ["command"].map String.toList
  | .rnode => ["port", "frequency", "bandwidth", "txpower", "spreadingfactor",
      "codingrate"].map String.toList
  | .rnodeMulti => ["port", "id_interval", "id_callsign"].map String.toList
  | .rnodeIp => ["target_host", "target_port"].map String.toList

/-- Every type in its group. -/
def groups : List TypeGroup := [
  ⟨"Automatic".toList, [.auto]⟩,
  ⟨"IP Networks".toList, [.backbone, .tcpServer, .tcpClient, .udp, .i2p]⟩,
  ⟨"Hardware".toList, [.serial, .kiss, .ax25Kiss, .rnode, .rnodeMulti, .rnodeIp]⟩,
  ⟨"Pipelines".toList, [.pipe]⟩]

/-- The fields of the type that a text names, none for an unknown type. -/
def ownFields (type : Text) : List Field :=
  match InterfaceType.ofName? type with
  | some t => typeFields t
  | none => []

/-- Put a field in the place of the one with its key, or else at the end. -/
def override : List Field → Field → List Field
  | [], f => [f]
  | g :: rest, f => if g.key = f.key then f :: rest else g :: override rest f

/-- Every field that an interface of the type may have. Of two with one key the more special
one counts. -/
def allFields (type : Text) : List Field :=
  (commonFields ++ discoveryFields ++ ownFields type).foldl override []

def visibleFields (type : Text) : List Field :=
  let own := (ownFields type).filter (·.key != subinterfacesKey)
  match InterfaceType.ofName? type with
  | some t => own.filter fun f => (primaryKeys t).any (Text.sameAscii · f.key)
  | none => own

end Catalogue

/-- A report of the runtime. Where it says nothing the values are those of no runtime at all. -/
structure Capabilities where
  runtimeActive : Bool := false
  os : Text := "other".toList
  identityHashHexLength : Nat := 0
  supportedTypes : List Text := []
  unsupportedTypes : List Text := []
  discoverableTypes : List Text := []
  autoconnectTypes : List Text := []
  runtimeVersion : Text := "unavailable".toList
  deriving DecidableEq, Repr

namespace Capabilities

/-- The known types among the names, in the order of the catalogue. -/
def knownTypes (names : List Text) : List InterfaceType :=
  InterfaceType.all.filter fun t => names.contains t.name

/-- The types that can be created: those that the report lists, or without a listed known type
all but the excluded one. -/
def supported (caps : Option Capabilities) : List InterfaceType :=
  let listed := match caps with
    | some caps => knownTypes caps.supportedTypes
    | none => []
  if listed.isEmpty then InterfaceType.all.filter (· != Catalogue.excludedType) else listed

def creatableGroups (caps : Option Capabilities) : List TypeGroup :=
  (Catalogue.groups.map fun g =>
    { g with types := g.types.filter (supported caps).contains }).filter (!·.types.isEmpty)

def isCreatable (caps : Option Capabilities) (type : Text) : Bool :=
  (creatableGroups caps).any fun g => g.types.any fun t => t.name == type

def isDiscoverable (caps : Option Capabilities) (type : Text) : Bool :=
  caps.any (·.discoverableTypes.contains type)

def isAutoconnectable (caps : Option Capabilities) (type : Text) : Bool :=
  caps.any (·.autoconnectTypes.contains type)

end Capabilities

end GatewayConfig
