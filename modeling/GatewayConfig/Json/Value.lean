import GatewayConfig.Numeric.Shortest

/-! # JSON values

An object is the list of its members; one that was read has each key once, in the order of the
keys' code points. A value is printed on one line without any blanks, or indented by two blanks for
each level.
-/

namespace GatewayConfig

/-- A number is either an integer, kept exactly, or a double. -/
inductive JsonNumber
  | integer (n : Int)
  | float (x : Binary64)
  deriving DecidableEq, Repr

inductive Json
  | null
  | bool (flag : Bool)
  | number (n : JsonNumber)
  | string (t : Text)
  | array (items : List Json)
  | object (members : List (Text × Json))
  deriving Repr

def JsonNumber.text : JsonNumber → Text
  | integer n => (if n < 0 then "-".toList else []) ++ Text.ofNat n.natAbs
  | float x => x.text .json

namespace Json

def member? (members : List (Text × Json)) (key : Text) : Option Json :=
  (members.find? (·.1 == key)).map (·.2)

/-- Put a member into its place in the order of keys, in place of one with the same key. -/
def insert (key : Text) (value : Json) : List (Text × Json) → List (Text × Json)
  | [] => [(key, value)]
  | (k, v) :: rest =>
    if k = key then (key, value) :: rest
    else if Text.before key k then (key, value) :: (k, v) :: rest
    else (k, v) :: insert key value rest

/-- The object with the given members, of which the last one with a key counts. -/
def ofMembers (members : List (Text × Json)) : Json :=
  object (members.foldl (fun sorted (key, value) => insert key value sorted) [])

end Json

namespace Json

/-- The last sixteen bits of a number as four hexadecimal digits. -/
def hexQuad (n : Nat) : Text := [n / 4096 % 16, n / 256 % 16, n / 16 % 16, n % 16].map Nat.digitChar

def escapeChar (c : Char) : Text :=
  match c with
  | '"' => "\\\"".toList
  | '\\' => "\\\\".toList
  | '\n' => "\\n".toList
  | '\r' => "\\r".toList
  | '\t' => "\\t".toList
  | _ =>
    if c.toNat = 8 then "\\b".toList
    else if c.toNat = 12 then "\\f".toList
    else if c.toNat < 32 then "\\u".toList ++ hexQuad c.toNat
    else [c]

def quote (t : Text) : Text := '"' :: (t.flatMap escapeChar ++ ['"'])

mutual

def compact : Json → Text
  | null => "null".toList
  | bool flag => if flag then "true".toList else "false".toList
  | number n => n.text
  | string t => quote t
  | array items => '[' :: (compactItems items ++ [']'])
  | object members => '\x7b' :: (compactMembers members ++ ['\x7d'])

def compactItems : List Json → Text
  | [] => []
  | [v] => compact v
  | v :: w :: rest => compact v ++ ',' :: compactItems (w :: rest)

def compactMembers : List (Text × Json) → Text
  | [] => []
  | [(k, v)] => quote k ++ ':' :: compact v
  | (k, v) :: m :: rest => quote k ++ ':' :: (compact v ++ ',' :: compactMembers (m :: rest))

end

def newLine (level : Nat) : Text := '\n' :: List.replicate (2 * level) ' '

mutual

/-- The value over several lines, its first line at the given level. -/
def pretty (level : Nat) : Json → Text
  | null => "null".toList
  | bool flag => if flag then "true".toList else "false".toList
  | number n => n.text
  | string t => quote t
  | array [] => "[]".toList
  | array (v :: rest) => '[' :: (prettyItems (level + 1) (v :: rest) ++ newLine level ++ [']'])
  | object [] => ['\x7b', '\x7d']
  | object (m :: rest) =>
    '\x7b' :: (prettyMembers (level + 1) (m :: rest) ++ newLine level ++ ['\x7d'])

def prettyItems (level : Nat) : List Json → Text
  | [] => []
  | [v] => newLine level ++ pretty level v
  | v :: w :: rest => newLine level ++ pretty level v ++ ',' :: prettyItems level (w :: rest)

def prettyMembers (level : Nat) : List (Text × Json) → Text
  | [] => []
  | [(k, v)] => newLine level ++ quote k ++ ": ".toList ++ pretty level v
  | (k, v) :: m :: rest =>
    newLine level ++ quote k ++ ": ".toList ++ pretty level v ++
      ',' :: prettyMembers level (m :: rest)

end

end Json

end GatewayConfig
