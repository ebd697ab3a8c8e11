import GatewayConfig.Json.Value

/-! # JSON texts

A text is first taken apart by the grammar alone. What a string or a number of it stands for is
decided when it is used, since a part of a text that nobody asks for may hold a number out of
range or half of a surrogate pair.
-/

namespace GatewayConfig.Json

/-- A piece of a string as written: a character, or a sixteen-bit unit given by its digits. -/
inductive StringPart
  | char (c : Char)
  | unit (n : Nat)
  deriving DecidableEq, Repr

structure NumberLiteral where
  negative : Bool
  whole : Text
  fraction : Option Text
  exponent : Option Int
  deriving DecidableEq, Repr

inductive Source
  | null
  | bool (flag : Bool)
  | number (n : NumberLiteral)
  | string (parts : List StringPart)
  | array (items : List Source)
  | object (members : List (List StringPart × Source))
  deriving Repr

def isGap (c : Char) : Bool := c == ' ' || c == '\n' || c == '\r' || c == '\t'

def skipGap (t : Text) : Text := t.dropWhile isGap

def hexValue? (c : Char) : Option Nat :=
  if c.isDigit then some (c.toNat - '0'.toNat)
  else if 'a' ≤ c && c ≤ 'f' then some (c.toNat - 'a'.toNat + 10)
  else if 'A' ≤ c && c ≤ 'F' then some (c.toNat - 'A'.toNat + 10)
  else none

def hexNumber? (digits : Text) : Option Nat :=
  digits.foldlM (fun n c => (hexValue? c).map (16 * n + ·)) 0

def unescape? : Char → Option Char
  | '"' => some '"'
  | '\\' => some '\\'
  | '/' => some '/'
  | 'b' => some '\x08'
  | 'f' => some '\x0c'
  | 'n' => some '\n'
  | 'r' => some '\r'
  | 't' => some '\t'
  | _ => none

/-- The rest of a string after its opening quote, and what follows the string. The parts read
so far come last one first. -/
def readString? (done : List StringPart) : Text → Option (List StringPart × Text)
  | [] => none
  | '"' :: rest => some (done.reverse, rest)
  | '\\' :: 'u' :: a :: b :: c :: d :: rest =>
    match hexNumber? [a, b, c, d] with
    | some n => readString? (.unit n :: done) rest
    | none => none
  | '\\' :: e :: rest =>
    match unescape? e with
    | some c => readString? (.char c :: done) rest
    | none => none
  | c :: rest => if c.toNat < 32 || c == '\\' then none else readString? (.char c :: done) rest

/-- The digits of a whole part: no zero before another digit. -/
def readWhole? (t : Text) : Option (Text × Text) :=
  match t.span Char.isDigit with
  | ([], _) => none
  | ('0' :: _ :: _, _) => none
  | parts => some parts

def readFraction? : Text → Option (Option Text × Text)
  | '.' :: rest =>
    match rest.span Char.isDigit with
    | ([], _) => none
    | (digits, rest) => some (some digits, rest)
  | t => some (none, t)

def readExponent? : Text → Option (Option Int × Text)
  | c :: rest =>
    if c == 'e' || c == 'E' then
      let (negative, rest) := Decimal.sign rest
      match rest.span Char.isDigit with
      | ([], _) => none
      | (digits, rest) =>
        some (some (if negative then -(natOfDigits digits : Int) else natOfDigits digits), rest)
    else some (none, c :: rest)
  | [] => some (none, [])

def readNumber? (negative : Bool) (t : Text) : Option (Source × Text) := do
  let (whole, t) ← readWhole? t
  let (fraction, t) ← readFraction? t
  let (exponent, t) ← readExponent? t
  return (.number ⟨negative, whole, fraction, exponent⟩, t)

mutual

def readValue? : Nat → Text → Option (Source × Text)
  | 0, _ => none
  | fuel + 1, t =>
    match skipGap t with
    | 'n' :: 'u' :: 'l' :: 'l' :: rest => some (.null, rest)
    | 't' :: 'r' :: 'u' :: 'e' :: rest => some (.bool true, rest)
    | 'f' :: 'a' :: 'l' :: 's' :: 'e' :: rest => some (.bool false, rest)
    | '"' :: rest => (readString? [] rest).map fun (parts, rest) => (.string parts, rest)
    | '[' :: rest =>
      match skipGap rest with
      | ']' :: rest => some (.array [], rest)
      | rest => (readItems? fuel rest).map fun (items, rest) => (.array items, rest)
    | '\x7b' :: rest =>
      match skipGap rest with
      | '\x7d' :: rest => some (.object [], rest)
      | rest => (readMembers? fuel rest).map fun (members, rest) => (.object members, rest)
    | '-' :: rest => readNumber? true rest
    | rest => readNumber? false rest

def readItems? : Nat → Text → Option (List Source × Text)
  | 0, _ => none
  | fuel + 1, t => do
    let (item, t) ← readValue? fuel t
    match skipGap t with
    | ',' :: rest =>
      let (items, rest) ← readItems? fuel rest
      return (item :: items, rest)
    | ']' :: rest => return ([item], rest)
    | _ => none

def readMembers? : Nat → Text → Option (List (List StringPart × Source) × Text)
  | 0, _ => none
  | fuel + 1, t =>
    match skipGap t with
    | '"' :: rest => do
      let (key, rest) ← readString? [] rest
      match skipGap rest with
      | ':' :: rest =>
        let (value, rest) ← readValue? fuel rest
        match skipGap rest with
        | ',' :: rest =>
          let (members, rest) ← readMembers? fuel rest
          return ((key, value) :: members, rest)
        | '\x7d' :: rest => return ([(key, value)], rest)
        | _ => none
      | _ => none
    | _ => none

end

/-- Take a whole text apart. Every two steps of reading use up a character, which bounds them. -/
def Source.read? (t : Text) : Option Source :=
  match readValue? (2 * t.length + 2) t with
  | some (source, rest) => if (skipGap rest).isEmpty then some source else none
  | none => none

/-- The text of a string. A unit that is half of a pair needs the other half after it. -/
def textOfParts? : List StringPart → Option Text
  | [] => some []
  | .char c :: rest => (textOfParts? rest).map (c :: ·)
  | .unit high :: .unit low :: rest =>
    if 0xD800 ≤ high && high < 0xDC00 then
      if 0xDC00 ≤ low && low < 0xE000 then
        (textOfParts? rest).map
          (Char.ofNat (0x10000 + (high - 0xD800) * 0x400 + (low - 0xDC00)) :: ·)
      else none
    else if 0xDC00 ≤ high && high < 0xE000 then none
    else (textOfParts? (.unit low :: rest)).map (Char.ofNat high :: ·)
  | .unit n :: rest =>
    if 0xD800 ≤ n && n < 0xE000 then none else (textOfParts? rest).map (Char.ofNat n :: ·)

namespace NumberLiteral

def maxWord : Nat := 0xFFFFFFFFFFFFFFFF

/-- Append digits to a number while it fits into 64 bits. The second part of the result counts
the digits that were left out, from the first that does not fit on. -/
def appendDigits (n : Nat) : Text → Nat × Nat
  | [] => (n, 0)
  | c :: rest =>
    if 10 * n + digitValue c ≤ maxWord then appendDigits (10 * n + digitValue c) rest
    else (n, rest.length + 1)

def powerOfTen (k : Nat) : Binary64 :=
  (Binary64.nearest? false (Nat.pow 10 k) 1).getD (.zero false)

/-- A number of 64 bits times a power of ten. The number, the power and their product or quotient
are each rounded, so the result may differ in its last bit from the nearest double. -/
def scaled? (negative : Bool) (n : Nat) (power : Int) : Option Binary64 := do
  let x ← Binary64.nearest? negative n 1
  if x.isZero then return x
  else if 308 < power then none
  else if 0 ≤ power then x.mul? (powerOfTen power.toNat)
  else if -308 ≤ power then x.div? (powerOfTen (-power).toNat)
  else
    let small ← x.div? (powerOfTen 308)
    if small.isZero || power < -616 then return .zero negative
    else small.div? (powerOfTen (-(power + 308)).toNat)

/-- The double that a literal with a fraction, with an exponent, or beyond 64 bits denotes.
Digits that do not fit into 64 bits only count for the power of ten. -/
def float? (l : NumberLiteral) : Option Binary64 :=
  let (n, skipped) := appendDigits 0 l.whole
  let fraction := l.fraction.getD []
  let (n, left) := appendDigits n fraction
  scaled? l.negative n ((skipped : Int) - (fraction.length - left : Nat) + l.exponent.getD 0)

/-- The integer that a literal denotes: one without fraction and exponent, of 64 bits with or
without a sign, and not a negative zero. -/
def integer? (l : NumberLiteral) : Option Int :=
  let n := natOfDigits l.whole
  if l.fraction.isSome || l.exponent.isSome then none
  else if l.negative then
    if n = 0 || 0x8000000000000000 < n then none else some (-(n : Int))
  else if n ≤ maxWord then some n else none

def number? (l : NumberLiteral) : Option JsonNumber :=
  match l.integer? with
  | some n => some (.integer n)
  | none => l.float?.map .float

end NumberLiteral

mutual

/-- The value of a text with at most `depth` arrays and objects inside one another. -/
def Source.value? (depth : Nat) : Source → Option Json
  | .null => some .null
  | .bool flag => some (.bool flag)
  | .number l => l.number?.map .number
  | .string parts => (textOfParts? parts).map .string
  | .array items =>
    match depth with
    | 0 => none
    | depth + 1 => (itemValues? depth items).map .array
  | .object members =>
    match depth with
    | 0 => none
    | depth + 1 => (memberValues? depth members).map ofMembers

def itemValues? (depth : Nat) : List Source → Option (List Json)
  | [] => some []
  | s :: rest =>
    match Source.value? depth s with
    | some v => (itemValues? depth rest).map (v :: ·)
    | none => none

def memberValues? (depth : Nat) :
    List (List StringPart × Source) → Option (List (Text × Json))
  | [] => some []
  | (key, s) :: rest =>
    match textOfParts? key, Source.value? depth s with
    | some k, some v => (memberValues? depth rest).map ((k, v) :: ·)
    | _, _ => none

end

def maxDepth : Nat := 127

def read? (t : Text) : Option Json := (Source.read? t).bind (Source.value? maxDepth)

end GatewayConfig.Json
