import GatewayConfig.Interface
import GatewayConfig.Numeric.Shortest
import GatewayConfig.Schema.Field
import GatewayConfig.Text.Basic

/-! # Faults

What a check of a configuration reports are messages, each with a level and the path of the place
that it is about. Their causes are faults of one value against its field, and settings missing that
interfaces of a type cannot do without.
-/

namespace GatewayConfig

inductive Level
  | error
  | warning
  deriving DecidableEq, Repr

namespace Level

def text : Level → Text
  | error => "error".toList
  | warning => "warning".toList

def ofText? (t : Text) : Option Level := [error, warning].find? fun l => l.text == t

end Level

structure Issue where
  level : Level
  path : Text
  message : Text
  deriving DecidableEq, Repr

def Issue.text (i : Issue) : Text :=
  i.level.text ++ " ".toList ++ i.path ++ ": ".toList ++ i.message

structure Verdict where
  valid : Bool
  errors : List Issue
  warnings : List Issue
  deriving DecidableEq, Repr

namespace Verdict

/-- The outcome with the given issues; only errors make a configuration invalid. -/
def ofIssues (errors warnings : List Issue) : Verdict := ⟨errors.isEmpty, errors, warnings⟩

def issues (v : Verdict) : List Issue := v.errors ++ v.warnings

end Verdict

/-- At least one of the keys has to have a value. -/
structure Requirement where
  /-- The key under which a failure is reported. -/
  key : Text
  keys : List Text
  /-- What is said in place of the usual message. -/
  message : Option Text
  deriving DecidableEq, Repr

namespace Requirement

private def oneOf (key : String) (keys : List String) : Requirement :=
  ⟨key.toList, keys.map String.toList, none⟩

private def oneOfSaying (key : String) (keys : List String) (message : String) : Requirement :=
  ⟨key.toList, keys.map String.toList, some message.toList⟩

def ofType : InterfaceType → List Requirement
  | .tcpClient | .rnodeIp =>
    [oneOf "target_host" ["target_host"], oneOf "target_port" ["target_port"]]
  | .tcpServer => [oneOf "listen_port" ["listen_port", "port"]]
  | .udp => [oneOf "listen_ip" ["listen_ip", "device"], oneOf "listen_port" ["listen_port", "port"]]
  | .serial | .kiss | .rnode | .rnodeMulti => [oneOf "port" ["port"]]
  | .ax25Kiss => [oneOf "port" ["port"], oneOf "callsign" ["callsign"]]
  | .pipe => [oneOf "command" ["command"]]
  | .backbone => [
    oneOfSaying "listen_on" ["listen_on", "listen_ip", "device", "target_host", "remote"]
      "BackboneInterface requires listen_on/listen_ip/device or target_host/remote",
    oneOfSaying "port" ["port", "listen_port", "target_port"]
      "BackboneInterface requires port/listen_port or target_port"]
  | .auto | .i2p => []

/-- The requirements of the type that a text names; an unknown type has none. -/
def ofTypeName (type : Text) : List Requirement :=
  match InterfaceType.ofName? type with
  | some t => ofType t
  | none => []

end Requirement

inductive FieldFault
  | missing
  | notANumber
  | below (bound : Binary64)
  | above (bound : Binary64)
  | notWhole
  | notYesNo
  | notOffered (choices : List Choice)
  | noItems
  deriving DecidableEq, Repr

def FieldFault.message (label : Text) : FieldFault → Text
  | missing => label ++ " is required".toList
  | notANumber => label ++ " must be a number".toList
  | below bound => label ++ " must be >= ".toList ++ bound.text .report
  | above bound => label ++ " must be <= ".toList ++ bound.text .report
  | notWhole => label ++ " must be an integer".toList
  | notYesNo => label ++ " must be yes/no".toList
  | notOffered choices =>
    label ++ " must be one of: ".toList ++ Text.join ", ".toList (choices.map (·.value))
  | noItems => label ++ " must contain at least one value".toList

/-- The only step that a number has to keep: whole numbers. -/
def wholeStep : Binary64 := ⟨false, 0x10000000000000, -52⟩

def Binary64.faults (x : Binary64) (min max step : Option Binary64) : List FieldFault :=
  (min.filter (x.value < ·.value)).toList.map .below ++
    (max.filter (·.value < x.value)).toList.map .above ++
    (if step = some wholeStep && !x.isIntegral then [.notWhole] else [])

/-- The faults of a value that is not blank. -/
def FieldKind.faults (kind : FieldKind) (required : Bool) (value : Text) : List FieldFault :=
  match kind with
  | .text => []
  | .number min max step =>
    match numberOf? value with
    | some x => x.faults min max step
    | none => [.notANumber]
  | .boolean => if Flag.isToken value then [] else [.notYesNo]
  | .select choices =>
    if choices.isEmpty || choices.any (·.value == value) then [] else [.notOffered choices]
  | .list => if required && (ValueList.read value).isEmpty then [.noItems] else []

/-- The faults of a field's value, which may be missing. A blank value is as good as none. -/
def Field.faults (f : Field) (value : Option Text) : List FieldFault :=
  match (value.map Text.trim).filter (!·.isEmpty) with
  | some value => f.kind.faults f.required value
  | none => if f.required then [.missing] else []

def nameMax : Nat := 96

inductive Fault
  | field (label : Text) (fault : FieldFault)
  | sourceIdentity
  | nameMissing
  | nameTooLong
  | typeMissing
  | unmet (requirement : Requirement) (type : Text)
  | badHost (key : Text)
  | badPort (key : Text)
  deriving DecidableEq, Repr

def Fault.message : Fault → Text
  | field label fault => fault.message label
  | sourceIdentity => "Discovery source identity must be an even-length hex string".toList
  | nameMissing => "Interface name is required".toList
  | nameTooLong =>
    "Interface name must be ".toList ++ Text.ofNat nameMax ++ " characters or fewer".toList
  | typeMissing => "Interface type is required".toList
  | unmet requirement type =>
    requirement.message.getD (requirement.key ++ " is required for ".toList ++ type)
  | badHost key => key ++ " must be a valid host or IP".toList
  | badPort key => key ++ " must be an integer between 1 and 65535".toList

/-- A fault at a key of the section or interface under check. -/
structure Finding where
  key : Text
  fault : Fault
  deriving DecidableEq, Repr

/-- The error that reports a finding about the section or interface with the path `owner`. -/
def Finding.issue (owner : Text) (f : Finding) : Issue :=
  ⟨.error, owner ++ ".".toList ++ f.key, f.fault.message⟩

def Field.findings (f : Field) (value : Option Text) : List Finding :=
  (f.faults value).map fun fault => ⟨f.key, .field f.label fault⟩

end GatewayConfig
