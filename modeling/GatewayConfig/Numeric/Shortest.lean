import GatewayConfig.Numeric.Binary64

/-! # Shortest decimal text of a double

Among the decimals that read back as a given double, the ones with the fewest digits are
considered, and of those the nearest. The digits do not depend on the layout in which they are set
down: where positional notation ends, and whether an integral value shows a fraction.
-/

namespace GatewayConfig

namespace Shortest

/-- The power of ten of the leading digit of a positive quotient. -/
def leadingPower (num den : Nat) : Int :=
  if den ≤ num then (Nat.toDigits 10 (num / den)).length - 1
  else -((Nat.toDigits 10 (den / num)).length : Int)

def rescale (num den : Nat) (power : Int) : Nat × Nat :=
  if 0 ≤ power then (num, den * Nat.pow 10 power.toNat)
  else (num * Nat.pow 10 (-power).toNat, den)

/-- The double that `coefficient * 10 ^ power` reads back as. -/
def readsBackAs (x : Binary64) (coefficient : Nat) (power : Int) : Bool :=
  Decimal.toBinary64? ⟨x.negative, coefficient, power⟩ == some x

/-- A decimal of at most `count` digits that reads back as the double: of the two neighbours of
its value on the grid of that many digits the nearer one, else the other one. A tie goes to the
even neighbour. -/
def ofLength? (x : Binary64) (count : Nat) : Option Decimal :=
  let (num, den) := x.fraction
  let power := leadingPower num den - count + 1
  let (n, d) := rescale num den power
  let low := n / d
  let order := if 2 * (n % d) < d || (2 * (n % d) = d && low % 2 == 0) then [low, low + 1]
    else [low + 1, low]
  (order.find? (readsBackAs x · power)).map fun c => ⟨x.negative, c, power⟩

def dropZeros (d : Decimal) : Decimal :=
  let digits := (Nat.toDigits 10 d.coefficient).reverse
  let zeros := (digits.takeWhile (· == '0')).length
  ⟨d.negative, d.coefficient / Nat.pow 10 zeros, d.exponent + zeros⟩

/-- The shortest decimal that reads back as the double. Seventeen digits always suffice. -/
def decimal (x : Binary64) : Decimal :=
  if x.isZero then ⟨x.negative, 0, 0⟩
  else match (List.range 17).findSome? fun k => ofLength? x (k + 1) with
    | some d => dropZeros d
    | none => ⟨x.negative, 0, 0⟩

end Shortest

structure NumberLayout where
  /-- The powers of ten of a leading digit for which notation is positional; all if absent. -/
  positional : Option (Int × Int)
  /-- Whether an integral value is written with a zero after the point. -/
  keepsFraction : Bool
  deriving DecidableEq, Repr

namespace NumberLayout

/-- Numbers in messages and reports: always positional and without an idle fraction. -/
def report : NumberLayout := ⟨none, false⟩

/-- Numbers in JSON: positional from a hundred-thousandth up to sixteen digits, and always seen
to be no integers. -/
def json : NumberLayout := ⟨some (-5, 15), true⟩

/-- Digits with their point, the last digit having the given power of ten. -/
def place (keepsFraction : Bool) (digits : Text) (power : Int) : Text :=
  if 0 ≤ power then
    digits ++ List.replicate power.toNat '0' ++ (if keepsFraction then ".0".toList else [])
  else
    let after := (-power).toNat
    let padded := List.replicate (after + 1 - digits.length) '0' ++ digits
    padded.take (padded.length - after) ++ ".".toList ++ padded.drop (padded.length - after)

def scientific (digits : Text) (leading : Int) : Text :=
  digits.take 1 ++ (if digits.length ≤ 1 then [] else ".".toList ++ digits.drop 1) ++
    (if leading < 0 then "e-".toList else "e+".toList) ++ Text.ofNat leading.natAbs

def write (layout : NumberLayout) (d : Decimal) : Text :=
  let digits := Nat.toDigits 10 d.coefficient
  let leading : Int := digits.length - 1 + d.exponent
  let isPositional := match layout.positional with
    | some (low, high) => d.coefficient == 0 || (low ≤ leading && leading ≤ high)
    | none => true
  (if d.negative then "-".toList else []) ++
    (if isPositional then place layout.keepsFraction digits d.exponent
    else scientific digits leading)

end NumberLayout

def Binary64.text (layout : NumberLayout) (x : Binary64) : Text :=
  layout.write (Shortest.decimal x)

end GatewayConfig
