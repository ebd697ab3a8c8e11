import GatewayConfig.Numeric.Binary64
import GatewayConfig.Text.Basic

/-! # Interface types and fields

The kinds of interface that the gateway knows, with the name each has in a configuration and the
label under which it is offered. A field describes one setting of an interface: its key and other
spellings of it, a label for readers, and how its value is understood.
-/

namespace GatewayConfig

inductive InterfaceType
  | auto
  | backbone
  | tcpServer
  | tcpClient
  | udp
  | i2p
  | serial
  | kiss
  | ax25Kiss
  | pipe
  | rnode
  | rnodeMulti
  | rnodeIp
  deriving DecidableEq, Repr

namespace InterfaceType

def all : List InterfaceType :=
  [auto, backbone, tcpServer, tcpClient, udp, i2p, serial, kiss, ax25Kiss, pipe, rnode,
    rnodeMulti, rnodeIp]

def name : InterfaceType → Text
  | auto => "AutoInterface".toList
  | backbone => "BackboneInterface".toList
  | tcpServer => "TCPServerInterface".toList
  | tcpClient => "TCPClientInterface".toList
  | udp => "UDPInterface".toList
  | i2p => "I2PInterface".toList
  | serial => "SerialInterface".toList
  | kiss => "KISSInterface".toList
  | ax25Kiss => "AX25KISSInterface".toList
  | pipe => "PipeInterface".toList
  | rnode => "RNodeInterface".toList
  | rnodeMulti => "RNodeMultiInterface".toList
  | rnodeIp => "RNodeIPInterface".toList

def label : InterfaceType → Text
  | auto => "Auto Interface".toList
  | backbone => "Backbone Interface".toList
  | tcpServer => "TCP Server Interface".toList
  | tcpClient => "TCP Client Interface".toList
  | udp => "UDP Interface".toList
  | i2p => "I2P Interface".toList
  | serial => "Serial Interface".toList
  | kiss => "KISS Interface".toList
  | ax25Kiss => "AX.25 KISS Interface".toList
  | pipe => "Pipe Interface".toList
  | rnode => "RNode Interface".toList
  | rnodeMulti => "RNode Multi Interface".toList
  | rnodeIp => "RNode IP Interface".toList

/-- The type with a name, spelled exactly. -/
def ofName? (t : Text) : Option InterfaceType := all.find? fun i => i.name == t

end InterfaceType

structure TypeGroup where
  label : Text
  types : List InterfaceType
  deriving DecidableEq, Repr

structure Choice where
  label : Text
  value : Text
  deriving DecidableEq, Repr

/-- How the text of a field is understood. -/
inductive FieldKind
  | text
  | number (min max step : Option Binary64)
  | boolean
  | select (choices : List Choice)
  | list
  deriving DecidableEq, Repr

namespace FieldKind

def word : FieldKind → Text
  | text => "text".toList
  | number .. => "number".toList
  | boolean => "boolean".toList
  | select _ => "select".toList
  | list => "list".toList

end FieldKind

structure Field where
  key : Text
  label : Text
  kind : FieldKind
  required : Bool := false
  aliases : List Text := []
  description : Option Text := none
  placeholder : Option Text := none
  deriving DecidableEq, Repr

namespace Field

/-- The keys that may hold the field's value: its own before the other spellings. -/
def candidateKeys (f : Field) : List Text := f.key :: f.aliases

/-- The field with a lower bound, if its values are numbers. -/
def atLeast (bound : Binary64) (f : Field) : Field :=
  match f.kind with
  | .number _ max step => { f with kind := .number (some bound) max step }
  | _ => f

def atMost (bound : Binary64) (f : Field) : Field :=
  match f.kind with
  | .number min _ step => { f with kind := .number min (some bound) step }
  | _ => f

def inSteps (size : Binary64) (f : Field) : Field :=
  match f.kind with
  | .number min max _ => { f with kind := .number min max (some size) }
  | _ => f

end Field

end GatewayConfig
