import GatewayConfig.Storage.Basic

/-! # Settings

The settings of the command, which are kept as JSON in a file of their own.
-/

namespace GatewayConfig

inductive OutputFormat
  | text
  | json
  deriving DecidableEq, Repr

namespace OutputFormat

def name : OutputFormat → Text
  | text => "text".toList
  | json => "json".toList

def ofName? (t : Text) : Option OutputFormat := [text, json].find? fun f => f.name == t

end OutputFormat

structure Settings where
  /-- The file with the runtime's report. -/
  capabilities : Option Text := none
  output : OutputFormat := .text
  /-- Whether warnings make a check fail. -/
  denyWarnings : Bool := false
  deriving DecidableEq, Repr

open Json in
def Settings.read? (t : Text) : Option Settings := do
  let standard : Settings := {}
  match ← (← Source.read? t).fields? ["capabilities".toList, "output".toList,
      "deny_warnings".toList] with
  | [capabilities, output, deny] =>
    let capabilities ← orDefault standard.capabilities (Source.optional? Source.text?) capabilities
    let output ← orDefault standard.output (·.case?.bind OutputFormat.ofName?) output
    let denyWarnings ← orDefault standard.denyWarnings Source.flag? deny
    return { capabilities, output, denyWarnings }
  | _ => none

inductive SettingsFailure
  | io (e : FileError)
  | json
  | capabilities (path : Text) (cause : FileFailure)
  deriving DecidableEq, Repr

def SettingsFailure.message : SettingsFailure → Text
  | io e => "IO error: ".toList ++ e.message
  | json => "JSON parsing error".toList
  | capabilities path cause =>
    "Failed to load capabilities from ".toList ++ path ++ ": ".toList ++ cause.message

namespace Settings

/-- Load the settings in a file. Without a file they are the standard ones. -/
def load [Monad m] (storage : Storage m) (path : Text) : m (Except SettingsFailure Settings) := do
  match ← storage.readText path with
  | .ok t =>
    match Settings.read? t with
    | some settings => return .ok settings
    | none => return .error .json
  | .error e => return if e.isAbsence then .ok {} else .error (.io e)

/-- The settings with what was asked for in their place. -/
def override (settings : Settings) (capabilities : Option Text) (output : Option OutputFormat) :
    Settings :=
  { settings with
    capabilities := capabilities.or settings.capabilities
    output := output.getD settings.output }

/-- The runtime's report that the settings name, if they name one. -/
def loadCapabilities [Monad m] (settings : Settings) (storage : Storage m) :
    m (Except SettingsFailure (Option Capabilities)) := do
  match settings.capabilities with
  | none => return .ok none
  | some path =>
    match ← Capabilities.load storage path with
    | .ok caps => return .ok (some caps)
    | .error cause => return .error (.capabilities path cause)

end Settings

end GatewayConfig
