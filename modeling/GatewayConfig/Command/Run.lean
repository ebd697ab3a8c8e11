import GatewayConfig.Command.Arguments
import GatewayConfig.Json.Value
import GatewayConfig.Report
import GatewayConfig.Settings
import GatewayConfig.Validation.Validate

/-! # Running a command

The commands over any storage. A call leaves behind, besides its files, printed text, log lines and
the error that ended it, if one did. Only one command writes: formatting a file in place.
-/

namespace GatewayConfig

inductive CommandError
  | file (cause : FileFailure)
  | settings (cause : SettingsFailure)
  | capabilities (cause : SettingsFailure)
  | unreadableInput (e : FileError)
  | unformatted (path : Text)
  | errors (path : Text) (count : Nat)
  | warnings (path : Text) (count : Nat)
  | unknownType (type : Text)
  deriving DecidableEq, Repr

def CommandError.message : CommandError → Text
  | file cause => cause.message
  | settings cause => "Internal error: Failed to load settings: ".toList ++ cause.message
  | capabilities cause => "Internal error: ".toList ++ cause.message
  | unreadableInput e => "Internal error: Failed to read input file: ".toList ++ e.message
  | unformatted path => "Internal error: ".toList ++ path ++ " is not formatted".toList
  | errors path count =>
    "Internal error: ".toList ++ path ++ " has ".toList ++ Text.ofNat count ++ " error(s)".toList
  | warnings path count =>
    "Internal error: ".toList ++ path ++ " has ".toList ++ Text.ofNat count ++ " warning(s)".toList
  | unknownType type => "Internal error: Unknown interface type: ".toList ++ type

inductive LogLine
  | formatted (path : Text)
  | unsupported (name type : Text)
  deriving DecidableEq, Repr

def LogLine.text : LogLine → Text
  | formatted path => "INFO rnsconf: ".toList ++ path ++ " is formatted".toList
  | unsupported name type =>
    "WARN rnsconf: interface type is not supported by the runtime interface=".toList ++ name ++
      " interface_type=".toList ++ type

structure Outcome where
  stdout : Text := []
  log : List LogLine := []
  error : Option CommandError := none
  deriving DecidableEq, Repr

def Outcome.failure (e : CommandError) : Outcome := { error := some e }

/-- The exit status: zero for success and one for failure. -/
def Outcome.status (o : Outcome) : Nat := if o.error.isSome then 1 else 0

def printedJson (v : Json) : Text := v.pretty 0 ++ "\n".toList

/-- The log lines about interfaces that the runtime cannot create. -/
def Document.unsupported (d : Document) (caps : Option Capabilities) : List LogLine :=
  if caps.isNone then []
  else (d.interfaces.filter fun i => !i.type.isEmpty && !Capabilities.isCreatable caps i.type).map
    fun i => .unsupported i.name i.type

/-- Why the outcome of a check makes the command fail. -/
def Verdict.failure? (v : Verdict) (path : Text) (denyWarnings : Bool) : Option CommandError :=
  if !v.valid then some (.errors path v.errors.length)
  else if denyWarnings && !v.warnings.isEmpty then some (.warnings path v.warnings.length)
  else none

inductive Conclusion
  /-- No command was run. -/
  | refused (why : Refusal)
  | ran (outcome : Outcome)
  deriving DecidableEq, Repr

/-- The exit status: that of the command, two for arguments that name none, zero for help. -/
def Conclusion.status : Conclusion → Nat
  | refused .usage => 2
  | refused .help => 0
  | ran outcome => outcome.status

namespace Command

def check [Monad m] (storage : Storage m) (settings : Settings) (path : Text)
    (denyWarnings : Bool) : m Outcome := do
  match ← Document.load storage path with
  | .error e => return .failure (.file e)
  | .ok d =>
    match ← settings.loadCapabilities storage with
    | .error e => return .failure (.capabilities e)
    | .ok caps =>
      let v := d.validate
      return {
        stdout := match settings.output with
          | .text => v.report
          | .json => printedJson v.toJson
        log := d.unsupported caps
        error := v.failure? path (denyWarnings || settings.denyWarnings) }

/-- Write a file in its canonical form, print that form, or compare the file with it. -/
def format [Monad m] (storage : Storage m) (path : Text) (target : FormatTarget) : m Outcome := do
  match ← storage.readText path with
  | .error e => return .failure (.unreadableInput e)
  | .ok t =>
    let d := Document.read t 0
    match target with
    | .comparison =>
      if d.write = t then return { log := [.formatted path] }
      else return .failure (.unformatted path)
    | .stdout => return { stdout := d.write }
    | .file =>
      match ← d.save storage path with
      | .ok () => return {}
      | .error e => return .failure (.file e)

def types [Monad m] (storage : Storage m) (settings : Settings) : m Outcome := do
  match ← settings.loadCapabilities storage with
  | .error e => return .failure (.capabilities e)
  | .ok caps =>
    let groups := Capabilities.creatableGroups caps
    return {
      stdout := match settings.output with
        | .text => TypeGroup.report caps groups
        | .json => printedJson (.array (groups.map TypeGroup.toJson)) }

def fields (settings : Settings) (type : Text) (all : Bool) : Outcome :=
  if (InterfaceType.ofName? type).isNone then .failure (.unknownType type)
  else
    let fields := if all then Catalogue.allFields type else Catalogue.visibleFields type
    { stdout := match settings.output with
        | .text => Field.report fields
        | .json => printedJson (.array (fields.map Field.toJson)) }

/-- Load the settings and do what is asked for. -/
def run [Monad m] (storage : Storage m) (invocation : Invocation) : m Outcome := do
  match ← Settings.load storage invocation.settingsPath with
  | .error e => return .failure (.settings e)
  | .ok settings =>
    let settings := settings.override invocation.capabilities invocation.output
    match invocation.action with
    | .check path denyWarnings => check storage settings path denyWarnings
    | .format path target => format storage path target
    | .types => types storage settings
    | .fields type all => return fields settings type all

def call [Monad m] (storage : Storage m) (env : Environment) (args : List Text) :
    m Conclusion := do
  match Arguments.read env args with
  | .error why => return .refused why
  | .ok invocation => return .ran (← run storage invocation)

end Command

end GatewayConfig
