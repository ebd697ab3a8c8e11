import GatewayConfig.Json.Value
import GatewayConfig.Numeric.Shortest
import GatewayConfig.Schema.Catalogue
import GatewayConfig.Schema.Field
import GatewayConfig.Validation.Fault

/-! # Reports

The texts that are shown for the outcome of a check, for groups of types and for fields, and the
JSON form of the same. There the members stand in the order in which the parts of a record are
introduced, and a part that is not set is left out.
-/

namespace GatewayConfig

def Text.unlines (lines : List Text) : Text := lines.flatMap (· ++ "\n".toList)

def Verdict.summary (v : Verdict) : Text :=
  (if v.valid then "valid".toList else "invalid".toList) ++ ": ".toList ++
    Text.ofNat v.errors.length ++ " error(s), ".toList ++
    Text.ofNat v.warnings.length ++ " warning(s)".toList

/-- A line for each issue, errors first, and the summary. -/
def Verdict.report (v : Verdict) : Text := Text.unlines (v.issues.map Issue.text ++ [v.summary])

/-- The line of a type, with a mark for what the runtime can do with it. -/
def InterfaceType.reportLine (caps : Option Capabilities) (t : InterfaceType) : Text :=
  "  ".toList ++ Text.padRight 22 t.name ++ " ".toList ++ t.label ++
    (if Capabilities.isDiscoverable caps t.name then " [discoverable]".toList else []) ++
    (if Capabilities.isAutoconnectable caps t.name then " [autoconnect]".toList else [])

def TypeGroup.report (caps : Option Capabilities) (groups : List TypeGroup) : Text :=
  Text.unlines (groups.flatMap fun g => g.label :: g.types.map (·.reportLine caps))

def FieldKind.summary : FieldKind → Text
  | number (some min) (some max) _ =>
    "number ".toList ++ min.text .report ++ "..".toList ++ max.text .report
  | number (some min) none _ => "number >= ".toList ++ min.text .report
  | number none (some max) _ => "number <= ".toList ++ max.text .report
  | select choices => "one of ".toList ++ Text.join "|".toList (choices.map (·.value))
  | kind => kind.word

def Field.reportLine (f : Field) : Text :=
  Text.padRight 34 f.key ++ " ".toList ++ Text.padRight 24 f.label ++ " ".toList ++
    f.kind.summary ++
    (if f.aliases.isEmpty then []
      else " (aliases: ".toList ++ Text.join ", ".toList f.aliases ++ ")".toList)

def Field.report (fields : List Field) : Text := Text.unlines (fields.map Field.reportLine)

namespace Json

def named (key : String) (value : Json) : Text × Json := (key.toList, value)

/-- A member for a part that is set. -/
def namedIfSet (key : String) (encode : α → Json) (value : Option α) : List (Text × Json) :=
  (value.map fun v => named key (encode v)).toList

def texts (ts : List Text) : Json := array (ts.map string)

def double (x : Binary64) : Json := number (.float x)

end Json

open Json

def Issue.toJson (i : Issue) : Json := .object [
  named "level" (.string i.level.text), named "path" (.string i.path),
  named "message" (.string i.message)]

def Verdict.toJson (v : Verdict) : Json := .object [
  named "valid" (.bool v.valid), named "errors" (.array (v.errors.map Issue.toJson)),
  named "warnings" (.array (v.warnings.map Issue.toJson))]

def TypeGroup.toJson (g : TypeGroup) : Json := .object [
  named "label" (.string g.label), named "types" (texts (g.types.map InterfaceType.name))]

def Choice.toJson (c : Choice) : Json := .object [
  named "label" (.string c.label), named "value" (.string c.value)]

/-- The members that only some kinds have. -/
def FieldKind.members : FieldKind → List (Text × Json)
  | number min max step =>
    namedIfSet "min" double min ++ namedIfSet "max" double max ++ namedIfSet "step" double step
  | select choices => [named "options" (.array (choices.map Choice.toJson))]
  | _ => []

def Field.toJson (f : Field) : Json := .object <|
  [named "key" (.string f.key), named "label" (.string f.label),
    named "kind" (.string f.kind.word)] ++ f.kind.members ++
  (if f.required then [named "required" (.bool true)] else []) ++
  (if f.aliases.isEmpty then [] else [named "aliases" (texts f.aliases)]) ++
  namedIfSet "description" .string f.description ++
  namedIfSet "placeholder" .string f.placeholder

end GatewayConfig
