import GatewayConfig.Settings

/-! # Command-line arguments

The arguments are read on two levels, before and after the name of a command. Options that are
common to all commands may stand on either level, and the later level wins.
-/

namespace GatewayConfig

inductive FormatTarget
  | file
  | stdout
  /-- Nothing is written: the file is only compared. -/
  | comparison
  deriving DecidableEq, Repr

inductive Action
  | check (path : Text) (denyWarnings : Bool)
  | format (path : Text) (target : FormatTarget)
  | types
  | fields (type : Text) (all : Bool)
  deriving DecidableEq, Repr

structure Invocation where
  action : Action
  settingsPath : Text
  capabilities : Option Text
  output : Option OutputFormat
  deriving DecidableEq, Repr

/-- What the environment says in place of options. -/
structure Environment where
  capabilities : Option Text := none
  output : Option Text := none
  deriving DecidableEq, Repr

inductive Refusal
  | usage
  /-- Help or the version was asked for. -/
  | help
  deriving DecidableEq, Repr

namespace Arguments

inductive Name
  | check
  | format
  | types
  | fields
  deriving DecidableEq, Repr

def Name.ofText? (t : Text) : Option Name :=
  if t = "check".toList then some check
  else if t = "fmt".toList then some format
  else if t = "types".toList then some types
  else if t = "fields".toList then some fields
  else none

inductive Flag
  | verbose
  | help
  | version
  | denyWarnings
  | stdout
  | compare
  | all
  deriving DecidableEq, Repr

inductive Setting
  | settings
  | capabilities
  | output
  deriving DecidableEq, Repr

/-- The long names of flags, some only before a command and some only after one. -/
def longFlag? (level : Option Name) (t : Text) : Option Flag :=
  if t = "verbose".toList then some .verbose
  else if t = "help".toList then some .help
  else if t = "version".toList && level == none then some .version
  else if t = "deny-warnings".toList && level == some .check then some .denyWarnings
  else if t = "stdout".toList && level == some .format then some .stdout
  else if t = "check".toList && level == some .format then some .compare
  else if t = "all".toList && level == some .fields then some .all
  else none

def shortFlag? (level : Option Name) (c : Char) : Option Flag :=
  if c = 'v' then some .verbose
  else if c = 'h' then some .help
  else if c = 'V' && level == none then some .version
  else if c = 's' && level == some .format then some .stdout
  else if c = 'a' && level == some .fields then some .all
  else none

def setting? (t : Text) : Option Setting :=
  if t = "settings".toList then some .settings
  else if t = "capabilities".toList then some .capabilities
  else if t = "output".toList then some .output
  else none

inductive Shape
  | terminator
  /-- Two hyphens, a name, and perhaps a value after an equals sign. -/
  | long (name : Text) (value : Option Text)
  | cluster (letters : Text)
  | operand (t : Text)
  deriving DecidableEq, Repr

def Shape.ofText : Text → Shape
  | ['-', '-'] => terminator
  | '-' :: '-' :: rest =>
    match rest.span (· != '=') with
    | (name, _ :: value) => long name (some value)
    | (name, []) => long name none
  | '-' :: c :: rest => cluster (c :: rest)
  | t => operand t

structure Level where
  flags : List Flag := []
  settings : Option Text := none
  capabilities : Option Text := none
  output : Option OutputFormat := none
  operands : List Text := []
  deriving DecidableEq, Repr

namespace Level

/-- Raise a flag. A flag stands once on a level, and a wish for help is granted at once. -/
def raise (l : Level) (f : Flag) : Except Refusal Level :=
  if f = .help || f = .version then .error .help
  else if l.flags.contains f then .error .usage
  else .ok { l with flags := l.flags ++ [f] }

/-- Give an option its value. An option stands once on a level; a path is not empty. -/
def assign (l : Level) (s : Setting) (value : Text) : Except Refusal Level :=
  match s with
  | .settings =>
    if l.settings.isSome || value.isEmpty then .error .usage
    else .ok { l with settings := some value }
  | .capabilities =>
    if l.capabilities.isSome || value.isEmpty then .error .usage
    else .ok { l with capabilities := some value }
  | .output =>
    match OutputFormat.ofName? value with
    | some format => if l.output.isSome then .error .usage else .ok { l with output := some format }
    | none => .error .usage

def assignTo (l : Level) (s : Option Setting) (value : Text) : Except Refusal Level :=
  match s with
  | some s => l.assign s value
  | none => .error .usage

/-- Give the next argument as its value to the option of a name. An argument with the shape of a
flag is no value. -/
def assignNext (l : Level) (s : Option Setting) (arg : Text) : Except Refusal Level :=
  match Shape.ofText arg with
  | .operand value => l.assignTo s value
  | _ => .error .usage

def arity : Name → Nat
  | .types => 0
  | .check | .format | .fields => 1

/-- Take an operand: a path, which is not empty, or the name of a type. -/
def take (l : Level) (name : Name) (value : Text) : Except Refusal Level :=
  if l.operands.length < arity name && !(value.isEmpty && name != .fields) then
    .ok { l with operands := l.operands ++ [value] }
  else .error .usage

def raiseAll (l : Level) (level : Option Name) (letters : Text) : Except Refusal Level :=
  letters.foldlM (fun l c =>
    match shortFlag? level c with
    | some f => l.raise f
    | none => .error .usage) l

end Level

/-- Read the arguments of a level up to the first operand on the upper level, or to the end after
the name of a command. -/
def readLevel (level : Option Name) (l : Level) : List Text → Except Refusal (Level × List Text)
  | [] => .ok (l, [])
  | arg :: rest =>
    match Shape.ofText arg with
    | .terminator =>
      match level with
      | none => .error .usage
      | some name => do
        let l ← rest.foldlM (fun (l : Level) value => l.take name value) l
        return (l, [])
    | .cluster letters => do readLevel level (← l.raiseAll level letters) rest
    | .operand t =>
      match level with
      | none => .ok (l, t :: rest)
      | some name => do readLevel level (← l.take name t) rest
    | .long name none =>
      match longFlag? level name with
      | some f => do readLevel level (← l.raise f) rest
      | none =>
        match rest with
        | [] => .error .usage
        | value :: rest => do readLevel level (← l.assignNext (setting? name) value) rest
    | .long name (some value) => do readLevel level (← l.assignTo (setting? name) value) rest

def action? (name : Name) (l : Level) : Option Action :=
  match name, l.operands with
  | .check, [path] => some (.check path (l.flags.contains .denyWarnings))
  | .format, [path] =>
    match l.flags.contains .stdout, l.flags.contains .compare with
    | true, true => none
    | true, false => some (.format path .stdout)
    | false, true => some (.format path .comparison)
    | false, false => some (.format path .file)
  | .types, [] => some .types
  | .fields, [type] => some (.fields type (l.flags.contains .all))
  | _, _ => none

/-- Whether the environment holds a usable value for the options that a level leaves open. -/
def suits (env : Environment) (l : Level) : Bool :=
  (l.capabilities.isSome || env.capabilities.all (!·.isEmpty)) &&
    (l.output.isSome || env.output.all fun t => (OutputFormat.ofName? t).isSome)

def defaultSettingsPath : Text := ".rnsconf.json".toList

/-- Whether the words after the command that explains commands name at most one of them. -/
def isHelpRequest : List Text → Bool
  | [] => true
  | [t] => t == "help".toList || (Name.ofText? t).isSome
  | _ => false

def read (env : Environment) (args : List Text) : Except Refusal Invocation := do
  let (upper, rest) ← readLevel none {} args
  match rest with
  | [] => throw .usage
  | word :: rest =>
    match Name.ofText? word with
    | none => throw (if word = "help".toList && isHelpRequest rest then .help else .usage)
    | some name =>
      let (lower, _) ← readLevel (some name) {} rest
      match action? name lower with
      | none => throw .usage
      | some action =>
        if !(suits env upper && suits env lower) then throw .usage
        return {
          action
          settingsPath := (lower.settings.or upper.settings).getD defaultSettingsPath
          capabilities := (lower.capabilities.or upper.capabilities).or env.capabilities
          output := (lower.output.or upper.output).or (env.output.bind OutputFormat.ofName?) }

end Arguments

end GatewayConfig
