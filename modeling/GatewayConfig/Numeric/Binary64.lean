import GatewayConfig.Text.Basic

/-! # Double-precision numbers

The finite numbers of the binary64 format, as a sign, a significand and a power of two, with
rounding of an exact quotient to the nearest of them. A decimal that a configuration value can hold
has an optional sign, digits with at most one point among them, and an optional power of ten. It
stands for the double nearest to its exact value.
-/

namespace GatewayConfig

/-- The number `± significand * 2 ^ exponent`. A rounded result has a significand below `2 ^ 53`
and the least exponent that allows it, but none below `-1074`. -/
structure Binary64 where
  negative : Bool
  significand : Nat
  exponent : Int
  deriving DecidableEq, Repr

namespace Binary64

def zero (negative : Bool) : Binary64 := ⟨negative, 0, -1074⟩

def isZero (x : Binary64) : Bool := x.significand == 0

def fraction (x : Binary64) : Nat × Nat :=
  if 0 ≤ x.exponent then (x.significand * Nat.pow 2 x.exponent.toNat, 1)
  else (x.significand, Nat.pow 2 (-x.exponent).toNat)

def value (x : Binary64) : Rat :=
  let magnitude := mkRat x.fraction.1 x.fraction.2
  if x.negative then -magnitude else magnitude

def isIntegral (x : Binary64) : Bool := x.value.den == 1

/-- The exponent at which a positive quotient has a significand of 53 bits, or `-1074` where
that is less. -/
def scale (num den : Nat) : Int :=
  let guess : Int := (num.log2 : Int) - den.log2 - 52
  let tight := if 0 ≤ guess then num < den * Nat.pow 2 (guess.toNat + 52)
    else num * Nat.pow 2 (-guess).toNat < den * Nat.pow 2 52
  max (if tight then guess - 1 else guess) (-1074)

/-- The quotient rounded to a natural number, a half going to the even neighbour. -/
def roundQuotient (num den : Nat) : Nat :=
  let q := num / den
  let r := num % den
  if 2 * r < den then q else if den < 2 * r then q + 1 else q + q % 2

/-- The double nearest to `± num / den`, for a positive `den`; none if that is out of range. -/
def nearest? (negative : Bool) (num den : Nat) : Option Binary64 :=
  if num = 0 then some (zero negative)
  else
    let e := scale num den
    let m := if 0 ≤ e then roundQuotient num (den * Nat.pow 2 e.toNat)
      else roundQuotient (num * Nat.pow 2 (-e).toNat) den
    let rounded : Binary64 :=
      if m = Nat.pow 2 53 then ⟨negative, Nat.pow 2 52, e + 1⟩ else ⟨negative, m, e⟩
    if rounded.exponent ≤ 971 then some rounded else none

def mul? (x y : Binary64) : Option Binary64 :=
  nearest? (x.negative != y.negative)
    (x.fraction.1 * y.fraction.1) (x.fraction.2 * y.fraction.2)

def div? (x y : Binary64) : Option Binary64 :=
  nearest? (x.negative != y.negative)
    (x.fraction.1 * y.fraction.2) (x.fraction.2 * y.fraction.1)

end Binary64

/-- The number `± coefficient * 10 ^ exponent`. -/
structure Decimal where
  negative : Bool
  coefficient : Nat
  exponent : Int
  deriving DecidableEq, Repr

def digitValue (c : Char) : Nat := c.toNat - '0'.toNat

def natOfDigits (digits : Text) : Nat := digits.foldl (fun n c => 10 * n + digitValue c) 0

namespace Decimal

/-- A sign, if there is one, and what follows it. -/
def sign : Text → Bool × Text
  | '-' :: rest => (true, rest)
  | '+' :: rest => (false, rest)
  | t => (false, t)

/-- The exponent that ends a number: nothing, or an `e` with a signed run of digits. -/
def exponent? : Text → Option Int
  | [] => some 0
  | c :: rest =>
    let (negative, digits) := sign rest
    if (c == 'e' || c == 'E') && !digits.isEmpty && digits.all Char.isDigit then
      some (if negative then -(natOfDigits digits : Int) else natOfDigits digits)
    else none

def fractionDigits : Text → Text × Text
  | '.' :: rest => rest.span Char.isDigit
  | t => ([], t)

def read? (t : Text) : Option Decimal := do
  let (negative, t) := sign t
  let (whole, t) := t.span Char.isDigit
  let (part, t) := fractionDigits t
  guard (!(whole.isEmpty && part.isEmpty))
  let exponent ← exponent? t
  return ⟨negative, natOfDigits (whole ++ part), exponent - part.length⟩

/-- The double nearest to the decimal, none beyond the range of doubles. The count of digits
settles the far ends, so that no power of ten gets out of hand. -/
def toBinary64? (d : Decimal) : Option Binary64 :=
  let size : Int := (Nat.toDigits 10 d.coefficient).length + d.exponent
  if d.coefficient = 0 || size < -330 then some (Binary64.zero d.negative)
  else if 310 < size then none
  else if 0 ≤ d.exponent then
    Binary64.nearest? d.negative (d.coefficient * Nat.pow 10 d.exponent.toNat) 1
  else Binary64.nearest? d.negative d.coefficient (Nat.pow 10 (-d.exponent).toNat)

end Decimal

/-- The number that a configuration value stands for: decimal notation between blanks, within
the range of doubles. -/
def numberOf? (value : Text) : Option Binary64 :=
  (Decimal.read? (Text.trim value)).bind Decimal.toBinary64?

end GatewayConfig
