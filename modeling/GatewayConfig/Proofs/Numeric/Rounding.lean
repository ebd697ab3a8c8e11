import GatewayConfig.Numeric.Binary64
import Mathlib.Algebra.Order.Field.Power
import Mathlib.Data.Rat.Cast.Order
import Mathlib.Tactic.FieldSimp
import Mathlib.Tactic.Linarith
import Mathlib.Tactic.NormNum
import Mathlib.Tactic.Positivity
import Mathlib.Tactic.Ring

/-! # Rounding to the nearest double

A decimal is read as the double nearest to its exact value. Which of its parts are computed, and
how, is left behind here: a result is nearest among all finite doubles, and where there is none the
value lies beyond all of them. What rounding does to comparisons follows from this alone.
-/

namespace GatewayConfig

/-- The values of finite doubles: integers of up to 53 bits, scaled by a power of two. -/
def IsDouble (q : ℚ) : Prop :=
  ∃ m e : ℤ, |m| < 2 ^ 53 ∧ -1074 ≤ e ∧ e ≤ 971 ∧ q = m * 2 ^ e

/-- A double to which no other one is preferable as a value for `q`. -/
structure RoundsTo (q x : ℚ) : Prop where
  isDouble : IsDouble x
  nearest : ∀ y, IsDouble y → |q - x| ≤ |q - y|

/-- A value beyond all doubles, on either side. -/
def Overflows (q : ℚ) : Prop := ∀ y, IsDouble y → |y| < |q|

def withSign (negative : Bool) (q : ℚ) : ℚ := if negative then -q else q

theorem IsDouble.neg {q : ℚ} (h : IsDouble q) : IsDouble (-q) := by
  obtain ⟨m, e, hm, hlow, hhigh, rfl⟩ := h
  exact ⟨-m, e, by rwa [abs_neg], hlow, hhigh, by push_cast; ring⟩

theorem isDouble_natCast {n : ℕ} (h : n < 2 ^ 53) : IsDouble n := by
  refine ⟨n, 0, ?_, by decide, by decide, by simp⟩
  rw [Nat.abs_cast]
  exact_mod_cast h

theorem IsDouble.abs_le {q : ℚ} (h : IsDouble q) : |q| ≤ (2 ^ 53 - 1) * 2 ^ (971 : ℤ) := by
  obtain ⟨m, e, hm, -, hhigh, rfl⟩ := h
  have hm' : |(m : ℚ)| ≤ 2 ^ 53 - 1 := by exact_mod_cast Int.le_sub_one_of_lt hm
  rw [abs_mul, abs_of_pos (zpow_pos two_pos e : (0 : ℚ) < 2 ^ e)]
  gcongr
  norm_num

theorem overflows_of_le {q : ℚ} (h : (2 ^ 53 - 1 / 2) * 2 ^ (971 : ℤ) ≤ |q|) : Overflows q := by
  intro y hy
  refine lt_of_le_of_lt hy.abs_le (lt_of_lt_of_le ?_ h)
  gcongr
  norm_num

theorem Overflows.withSign {q : ℚ} (h : Overflows q) (negative : Bool) :
    Overflows (withSign negative q) := by
  cases negative with
  | false => exact h
  | true => exact fun y hy => abs_neg q ▸ h y hy

theorem not_isDouble_of_overflows {q : ℚ} (h : Overflows q) : ¬IsDouble q :=
  fun hq => lt_irrefl _ (h q hq)

namespace RoundsTo

theorem neg {q x : ℚ} (h : RoundsTo q x) : RoundsTo (-q) (-x) where
  isDouble := h.isDouble.neg
  nearest y hy := by
    have := h.nearest (-y) hy.neg
    rwa [← abs_neg (q - x), ← abs_neg (q - -y), neg_sub', neg_sub', neg_neg] at this

theorem withSign {q x : ℚ} (h : RoundsTo q x) (negative : Bool) :
    RoundsTo (withSign negative q) (withSign negative x) := by
  cases negative with
  | false => exact h
  | true => exact h.neg

/-- A double is not moved. -/
theorem eq_of_isDouble {q x : ℚ} (h : RoundsTo q x) (hq : IsDouble q) : x = q := by
  have hle := h.nearest q hq
  rw [sub_self, abs_zero, abs_nonpos_iff, sub_eq_zero] at hle
  exact hle.symm

theorem le_of_isDouble {q x y : ℚ} (h : RoundsTo q x) (hy : IsDouble y) (hle : y ≤ q) : y ≤ x := by
  have hnear := h.nearest y hy
  rw [abs_of_nonneg (sub_nonneg.mpr hle)] at hnear
  have := (le_abs_self _).trans hnear
  linarith

end RoundsTo

namespace Binary64

theorem abs_sub_roundQuotient_le (num : ℕ) {den : ℕ} (hden : 0 < den) :
    |(num : ℚ) / den - roundQuotient num den| ≤ 1 / 2 := by
  have hden' : (0 : ℚ) < den := by exact_mod_cast hden
  have hsplit : (num : ℚ) / den = (num / den : ℕ) + (num % den : ℕ) / den := by
    rw [eq_comm, ← mul_right_inj' hden'.ne', mul_add, mul_div_cancel₀ _ hden'.ne',
      mul_div_cancel₀ _ hden'.ne']
    exact_mod_cast Nat.div_add_mod num den
  have hlow : (0 : ℚ) ≤ (num % den : ℕ) / den := by positivity
  have hhigh : ((num % den : ℕ) : ℚ) / den ≤ 1 := by
    rw [div_le_one hden']
    exact_mod_cast (Nat.mod_lt num hden).le
  have hdown : 2 * (num % den) ≤ den → ((num % den : ℕ) : ℚ) / den ≤ 1 / 2 := by
    intro h
    rw [div_le_div_iff₀ hden' two_pos, one_mul, mul_comm]
    exact_mod_cast h
  have hup : den ≤ 2 * (num % den) → 1 / 2 ≤ ((num % den : ℕ) : ℚ) / den := by
    intro h
    rw [div_le_div_iff₀ two_pos hden', one_mul, mul_comm]
    exact_mod_cast h
  rw [hsplit, roundQuotient, abs_le]
  split
  next h =>
    have := hdown h.le
    constructor <;> linarith
  next h =>
    have hhalf := hup (Nat.le_of_not_lt h)
    split
    next =>
      push_cast
      constructor <;> linarith
    next h' =>
      -- A tie is halfway between both neighbours, so either will do.
      have := hdown (Nat.le_of_not_lt h')
      rcases Nat.mod_two_eq_zero_or_one (num / den) with heven | hodd
      · rw [heven, Nat.add_zero]
        constructor <;> linarith
      · rw [hodd]
        push_cast
        constructor <;> linarith

/-- The half is the best that a whole number can do. -/
theorem abs_sub_le_of_abs_sub_le_half {q : ℚ} {m : ℕ} (h : |q - m| ≤ 1 / 2) (k : ℤ) :
    |q - m| ≤ |q - k| := by
  by_cases hk : k = m
  · rw [hk, Int.cast_natCast]
  · have hone : (1 : ℚ) ≤ |(k : ℚ) - m| := by
      exact_mod_cast Int.one_le_abs (sub_ne_zero.mpr hk)
    have htriangle : |(k : ℚ) - m| ≤ |q - k| + |q - m| := by
      rw [← abs_neg (q - k)]
      have := abs_add_le (-(q - k)) (q - m)
      rwa [show -(q - k) + (q - m) = k - m by ring] at this
    linarith

def significandAt (num den : ℕ) (e : ℤ) : ℕ :=
  if 0 ≤ e then roundQuotient num (den * Nat.pow 2 e.toNat)
  else roundQuotient (num * Nat.pow 2 (-e).toNat) den

/-- The double `± m * 2 ^ e`, for a significand that may have reached `2 ^ 53`. -/
def carry (negative : Bool) (m : ℕ) (e : ℤ) : Binary64 :=
  if m = Nat.pow 2 53 then ⟨negative, Nat.pow 2 52, e + 1⟩ else ⟨negative, m, e⟩

theorem nearest?_eq (negative : Bool) {num : ℕ} (hnum : num ≠ 0) (den : ℕ) :
    nearest? negative num den =
      let rounded := carry negative (significandAt num den (scale num den)) (scale num den)
      if rounded.exponent ≤ 971 then some rounded else none := by
  rw [nearest?, if_neg hnum]
  rfl

theorem value_eq (x : Binary64) :
    x.value = withSign x.negative (x.significand * 2 ^ x.exponent) := by
  have hmagnitude : mkRat x.fraction.1 x.fraction.2 = x.significand * (2 : ℚ) ^ x.exponent := by
    rw [fraction, Rat.mkRat_eq_div]
    split
    next h =>
      obtain ⟨n, hn⟩ := Int.eq_ofNat_of_zero_le h
      simp [hn]
    next h =>
      obtain ⟨n, hn⟩ := Int.eq_ofNat_of_zero_le (Int.neg_nonneg_of_nonpos (Int.le_of_not_le h))
      rw [show x.exponent = -(n : ℤ) by omega]
      simp [div_eq_mul_inv]
  rw [value, hmagnitude]
  rfl

theorem value_carry (negative : Bool) (m : ℕ) (e : ℤ) :
    (carry negative m e).value = withSign negative (m * 2 ^ e) := by
  rw [value_eq, carry]
  split
  next h =>
    rw [h]
    congr 1
    rw [zpow_add_one₀ two_ne_zero]
    simp only [Nat.pow_eq]
    push_cast
    ring
  next => rfl

theorem abs_sub_significandAt_le (num : ℕ) {den : ℕ} (hden : 0 < den) (e : ℤ) :
    |(num : ℚ) / den / 2 ^ e - significandAt num den e| ≤ 1 / 2 := by
  rw [significandAt]
  split
  next h =>
    obtain ⟨n, rfl⟩ := Int.eq_ofNat_of_zero_le h
    have := abs_sub_roundQuotient_le num (show 0 < den * 2 ^ n by positivity)
    push_cast at this
    rwa [← div_div] at this
  next h =>
    obtain ⟨n, hn⟩ := Int.eq_ofNat_of_zero_le (Int.neg_nonneg_of_nonpos (Int.le_of_not_le h))
    have := abs_sub_roundQuotient_le (num * 2 ^ n) hden
    push_cast at this
    rw [show e = -(n : ℤ) by omega, zpow_neg, zpow_natCast, div_inv_eq_mul, div_mul_eq_mul_div]
    simpa using this

/-- The two numbers of bits tell the quotient up to a factor of two on either side. -/
theorem quotient_between_powers {num den : ℕ} (hnum : num ≠ 0) (hden : den ≠ 0) :
    (2 : ℚ) ^ ((num.log2 : ℤ) - den.log2 - 1) < num / den ∧
      (num : ℚ) / den < 2 ^ ((num.log2 : ℤ) - den.log2 + 1) := by
  have hden' : (0 : ℚ) < den := by exact_mod_cast Nat.pos_of_ne_zero hden
  have hnum_low : (2 : ℚ) ^ (num.log2 : ℤ) ≤ num := by exact_mod_cast Nat.log2_self_le hnum
  have hnum_high : (num : ℚ) < 2 ^ ((num.log2 : ℤ) + 1) := by exact_mod_cast Nat.lt_log2_self
  have hden_low : (2 : ℚ) ^ (den.log2 : ℤ) ≤ den := by exact_mod_cast Nat.log2_self_le hden
  have hden_high : (den : ℚ) < 2 ^ ((den.log2 : ℤ) + 1) := by exact_mod_cast Nat.lt_log2_self
  rw [lt_div_iff₀ hden', div_lt_iff₀ hden']
  constructor
  · calc (2 : ℚ) ^ ((num.log2 : ℤ) - den.log2 - 1) * den
        < 2 ^ ((num.log2 : ℤ) - den.log2 - 1) * 2 ^ ((den.log2 : ℤ) + 1) := by gcongr
      _ = 2 ^ (num.log2 : ℤ) := by rw [← zpow_add₀ two_ne_zero]; congr 1; ring
      _ ≤ num := hnum_low
  · calc (num : ℚ) < 2 ^ ((num.log2 : ℤ) + 1) := hnum_high
      _ = 2 ^ ((num.log2 : ℤ) - den.log2 + 1) * 2 ^ (den.log2 : ℤ) := by
        rw [← zpow_add₀ two_ne_zero]; congr 1; ring
      _ ≤ 2 ^ ((num.log2 : ℤ) - den.log2 + 1) * den := by gcongr

/-- The comparison by which an exponent is corrected, whatever the sign of the exponent. -/
theorem tight_iff (num : ℕ) {den : ℕ} (hden : 0 < den) (guess : ℤ) :
    (if 0 ≤ guess then num < den * Nat.pow 2 (guess.toNat + 52)
      else num * Nat.pow 2 (-guess).toNat < den * Nat.pow 2 52) ↔
      (num : ℚ) / den < 2 ^ (guess + 52) := by
  have hden' : (0 : ℚ) < den := by exact_mod_cast hden
  rw [div_lt_iff₀ hden', mul_comm (2 ^ (guess + 52))]
  split
  next h =>
    obtain ⟨n, rfl⟩ := Int.eq_ofNat_of_zero_le h
    exact_mod_cast Iff.rfl
  next h =>
    obtain ⟨n, hn⟩ := Int.eq_ofNat_of_zero_le (Int.neg_nonneg_of_nonpos (Int.le_of_not_le h))
    have hpos : (0 : ℚ) < 2 ^ n := by positivity
    rw [hn, show guess + 52 = 52 - (n : ℤ) by omega, zpow_sub₀ two_ne_zero, zpow_natCast,
      mul_div_assoc', lt_div_iff₀ hpos]
    exact_mod_cast Iff.rfl

/-- The exponent of a quotient leaves a significand of at most 53 bits, and of 53 unless it is the
least exponent. -/
theorem scale_spec {num den : ℕ} (hnum : num ≠ 0) (hden : den ≠ 0) :
    -1074 ≤ scale num den ∧ (num : ℚ) / den < 2 ^ (scale num den + 53) ∧
      (-1074 < scale num den → (2 : ℚ) ^ (scale num den + 52) ≤ num / den) := by
  obtain ⟨hlow, hhigh⟩ := quotient_between_powers hnum hden
  have htight := tight_iff num (Nat.pos_of_ne_zero hden) ((num.log2 : ℤ) - den.log2 - 52)
  rw [scale]
  generalize hguess : (num.log2 : ℤ) - den.log2 - 52 = guess at htight ⊢
  rw [show (num.log2 : ℤ) - den.log2 - 1 = guess - 1 + 52 by omega] at hlow
  rw [show (num.log2 : ℤ) - den.log2 + 1 = guess + 53 by omega] at hhigh
  rw [if_congr htight rfl rfl]
  refine ⟨Int.le_max_right _ _, ?_, ?_⟩
  · refine lt_of_lt_of_le ?_ (zpow_le_zpow_right₀ one_le_two (Int.add_le_add_right (Int.le_max_left _ _) 53))
    split
    next h => rwa [show guess - 1 + 53 = guess + 52 by omega]
    next => exact hhigh
  · intro h
    rw [max_eq_left (by omega)]
    split
    next => exact hlow.le
    next h => exact not_lt.mp h

/-- A significand within a half of the scaled quotient is nearest among the multiples of the power
of two. -/
theorem abs_sub_mul_le {q : ℚ} {m : ℕ} {e : ℤ} (h : |q / 2 ^ e - m| ≤ 1 / 2) (k : ℤ) :
    |q - m * 2 ^ e| ≤ |q - k * 2 ^ e| := by
  have hpos : (0 : ℚ) < 2 ^ e := zpow_pos two_pos e
  have hscaled (t : ℚ) : |q - t * 2 ^ e| = |q / 2 ^ e - t| * 2 ^ e := by
    rw [← abs_of_pos hpos, ← abs_mul, abs_of_pos hpos, sub_mul, div_mul_cancel₀ _ hpos.ne']
  rw [hscaled, hscaled]
  exact mul_le_mul_of_nonneg_right (abs_sub_le_of_abs_sub_le_half h k) hpos.le

/-- The scaled significand is nearest among all doubles. Those on a coarser grid are multiples of
the same power of two, and those on a finer one lie below the whole binade of the quotient. -/
theorem abs_sub_scaled_le {q : ℚ} {m : ℕ} {e : ℤ} (h : |q / 2 ^ e - m| ≤ 1 / 2)
    (hbinade : -1074 < e → 2 ^ (e + 52) ≤ q) {y : ℚ} (hy : IsDouble y) :
    |q - m * 2 ^ e| ≤ |q - y| := by
  obtain ⟨k, f, hk, hlow, -, rfl⟩ := hy
  by_cases hgrid : e ≤ f
  · obtain ⟨n, hn⟩ := Int.eq_ofNat_of_zero_le (Int.sub_nonneg_of_le hgrid)
    have hmultiple : (k : ℚ) * 2 ^ f = (k * 2 ^ n : ℤ) * 2 ^ e := by
      rw [show f = n + e by omega, zpow_add₀ two_ne_zero, zpow_natCast]
      push_cast
      ring
    rw [hmultiple]
    exact abs_sub_mul_le h _
  · have hbottom : ((2 ^ 52 : ℤ) : ℚ) * 2 ^ e = 2 ^ (e + 52) := by
      rw [zpow_add₀ two_ne_zero]
      push_cast
      ring
    have hbelow : (k : ℚ) * 2 ^ f ≤ 2 ^ (e + 52) := by
      have hk' : (k : ℚ) ≤ 2 ^ 53 := by exact_mod_cast (le_abs_self k).trans hk.le
      calc (k : ℚ) * 2 ^ f ≤ 2 ^ 53 * 2 ^ (e - 1) := by
            gcongr
            · norm_num
            · omega
        _ = 2 ^ (e + 52) := by
          rw [← zpow_natCast, ← zpow_add₀ two_ne_zero]
          congr 1
          push_cast
          ring
    have hq := hbinade (by omega)
    calc |q - m * 2 ^ e| ≤ |q - (2 ^ 52 : ℤ) * 2 ^ e| := abs_sub_mul_le h _
      _ = q - 2 ^ (e + 52) := by rw [hbottom, abs_of_nonneg (sub_nonneg.mpr hq)]
      _ ≤ q - k * 2 ^ f := sub_le_sub_left hbelow q
      _ ≤ |q - k * 2 ^ f| := le_abs_self _

theorem significandAt_scale_le {num den : ℕ} (hnum : num ≠ 0) (hden : den ≠ 0) :
    significandAt num den (scale num den) ≤ 2 ^ 53 := by
  obtain ⟨-, hhigh, -⟩ := scale_spec hnum hden
  have hhalf := abs_sub_significandAt_le num (Nat.pos_of_ne_zero hden) (scale num den)
  have hscaled : (num : ℚ) / den / 2 ^ scale num den < 2 ^ 53 := by
    rw [div_lt_iff₀ (zpow_pos two_pos _)]
    rwa [add_comm, zpow_add₀ two_ne_zero] at hhigh
  have hlt : (significandAt num den (scale num den) : ℚ) < 2 ^ 53 + 1 := by
    have := (abs_le.mp hhalf).1
    linarith
  exact Nat.le_of_lt_succ (by exact_mod_cast hlt)

/-- Rounding gives a nearest double. -/
theorem roundsTo_of_nearest? {negative : Bool} {num den : ℕ} (hden : den ≠ 0) {x : Binary64}
    (h : nearest? negative num den = some x) :
    RoundsTo (withSign negative (num / den)) x.value := by
  by_cases hnum : num = 0
  · rw [nearest?, if_pos hnum, Option.some.injEq] at h
    have hzero : RoundsTo 0 0 := ⟨isDouble_natCast (n := 0) (by decide), fun y _ => by simp⟩
    have hvalue : x.value = withSign negative 0 := by rw [← h, value_eq, zero]; simp
    rw [hnum, hvalue, Nat.cast_zero, zero_div]
    exact hzero.withSign negative
  · rw [nearest?_eq negative hnum] at h
    obtain ⟨hleast, -, hbinade⟩ := scale_spec hnum hden
    have hhalf := abs_sub_significandAt_le num (Nat.pos_of_ne_zero hden) (scale num den)
    have hle := significandAt_scale_le hnum hden
    generalize scale num den = e at *
    generalize significandAt num den e = m at *
    dsimp only at h
    split at h
    next hgreatest =>
      cases h
      rw [value_carry]
      refine RoundsTo.withSign ⟨?_, fun y => abs_sub_scaled_le hhalf hbinade⟩ negative
      rw [carry] at hgreatest
      split at hgreatest
      next hm =>
        refine ⟨2 ^ 52, e + 1, by decide, by omega, hgreatest, ?_⟩
        rw [hm, zpow_add_one₀ two_ne_zero]
        simp only [Nat.pow_eq]
        push_cast
        ring
      next hm =>
        have hm' : m < 2 ^ 53 := lt_of_le_of_ne hle hm
        refine ⟨m, e, ?_, hleast, hgreatest, by simp⟩
        rw [Nat.abs_cast]
        exact_mod_cast hm'
    next => cases h

/-- Rounding fails only beyond all doubles. -/
theorem overflows_of_nearest?_eq_none {negative : Bool} {num den : ℕ} (hden : den ≠ 0)
    (h : nearest? negative num den = none) : Overflows (withSign negative (num / den)) := by
  by_cases hnum : num = 0
  · rw [nearest?, if_pos hnum] at h
    cases h
  · rw [nearest?_eq negative hnum] at h
    obtain ⟨-, -, hbinade⟩ := scale_spec hnum hden
    have hhalf := abs_sub_significandAt_le num (Nat.pos_of_ne_zero hden) (scale num den)
    generalize scale num den = e at *
    generalize significandAt num den e = m at *
    dsimp only at h
    split at h
    next => cases h
    next hgreatest =>
      refine (overflows_of_le ?_).withSign negative
      rw [abs_of_nonneg (by positivity)]
      rw [carry] at hgreatest
      split at hgreatest
      next hm =>
        -- The significand has been rounded up to the next power of two.
        have hscaled : (2 ^ 53 - 1 / 2 : ℚ) ≤ num / den / 2 ^ e := by
          have := (abs_le.mp hhalf).1
          rw [hm] at this
          simp only [Nat.pow_eq] at this
          push_cast at this
          linarith
        rw [le_div_iff₀ (zpow_pos two_pos e)] at hscaled
        refine le_trans ?_ hscaled
        gcongr
        · norm_num
        · dsimp only at hgreatest
          omega
      next =>
        dsimp only at hgreatest
        refine le_trans ?_ (hbinade (by omega))
        calc (2 ^ 53 - 1 / 2 : ℚ) * 2 ^ (971 : ℤ) ≤ 2 ^ 53 * 2 ^ (971 : ℤ) := by
              gcongr
              norm_num
          _ = 2 ^ (1024 : ℤ) := by
            rw [← zpow_natCast, ← zpow_add₀ two_ne_zero]
            rfl
          _ ≤ 2 ^ (e + 52) := by
            gcongr
            · norm_num
            · omega

end Binary64

end GatewayConfig
