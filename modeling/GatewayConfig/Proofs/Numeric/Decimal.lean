import GatewayConfig.Proofs.Numeric.Rounding
import Mathlib.Data.List.TakeWhile

/-! # Reading decimal notation

The count of digits takes the far ends out of the conversion of a decimal to a double, and what
is left is the rounding of a quotient. All three ways lead to the nearest double of the exact value,
or past all doubles.
-/

namespace GatewayConfig

def Decimal.value (d : Decimal) : ℚ := withSign d.negative (d.coefficient * 10 ^ d.exponent)

/-- A value of at most half the least positive double may be read as zero. -/
theorem roundsTo_zero {q : ℚ} (h : |q| ≤ 2 ^ (-1075 : ℤ)) : RoundsTo q 0 := by
  refine ⟨isDouble_natCast (n := 0) (by decide), ?_⟩
  rintro y ⟨k, f, -, hlow, -, rfl⟩
  rw [sub_zero]
  by_cases hk : k = 0
  · simp [hk]
  · have hone : (1 : ℚ) ≤ |(k : ℚ)| := by exact_mod_cast Int.one_le_abs hk
    have hleast : (2 : ℚ) ^ (-1074 : ℤ) ≤ |(k : ℚ) * 2 ^ f| := by
      rw [abs_mul, abs_of_pos (zpow_pos two_pos f : (0 : ℚ) < 2 ^ f)]
      calc (2 : ℚ) ^ (-1074 : ℤ) ≤ 2 ^ f := zpow_le_zpow_right₀ one_le_two hlow
        _ ≤ |(k : ℚ)| * 2 ^ f := le_mul_of_one_le_left (zpow_pos two_pos f).le hone
    have hhalves : (2 : ℚ) ^ (-1074 : ℤ) = 2 ^ (-1075 : ℤ) + 2 ^ (-1075 : ℤ) := by
      rw [show (-1074 : ℤ) = -1075 + 1 from rfl, zpow_add_one₀ two_ne_zero]
      ring
    have htriangle := abs_sub_abs_le_abs_sub ((k : ℚ) * 2 ^ f) q
    rw [abs_sub_comm] at htriangle
    linarith

namespace Decimal

/-- The count of digits says between which powers of ten a decimal lies. -/
theorem between_powers {n : ℕ} (hn : n ≠ 0) :
    10 ^ ((Nat.toDigits 10 n).length - 1) ≤ n ∧ n < 10 ^ (Nat.toDigits 10 n).length := by
  have hpos : 0 < (Nat.toDigits 10 n).length := Nat.length_toDigits_pos
  refine ⟨?_, (Nat.length_toDigits_le_iff (by decide) hpos).mp le_rfl⟩
  by_cases hone : (Nat.toDigits 10 n).length - 1 = 0
  · rw [hone]
    exact Nat.pos_of_ne_zero hn
  · by_contra hlt
    have := (Nat.length_toDigits_le_iff (by decide) (Nat.pos_of_ne_zero hone)).mpr (not_le.mp hlt)
    omega

theorem magnitude_between_powers {n : ℕ} (hn : n ≠ 0) (e : ℤ) :
    (10 : ℚ) ^ ((Nat.toDigits 10 n).length + e - 1) ≤ n * 10 ^ e ∧
      (n : ℚ) * 10 ^ e < 10 ^ ((Nat.toDigits 10 n).length + e) := by
  obtain ⟨hlow, hhigh⟩ := between_powers hn
  have hpos : 0 < (Nat.toDigits 10 n).length := Nat.length_toDigits_pos
  generalize (Nat.toDigits 10 n).length = size at *
  have hten : (0 : ℚ) < 10 ^ e := by positivity
  constructor
  · rw [show (size : ℤ) + e - 1 = (size - 1 : ℕ) + e by omega, zpow_add₀ (by norm_num),
      zpow_natCast]
    gcongr
    exact_mod_cast hlow
  · rw [zpow_add₀ (by norm_num), zpow_natCast]
    gcongr
    exact_mod_cast hhigh

/-- The quotient that is rounded is the exact value. -/
theorem quotient_eq (d : Decimal) : ∃ num den : ℕ, den ≠ 0 ∧
    d.value = withSign d.negative (num / den) ∧
    (if 0 ≤ d.exponent then
      Binary64.nearest? d.negative (d.coefficient * Nat.pow 10 d.exponent.toNat) 1
    else Binary64.nearest? d.negative d.coefficient (Nat.pow 10 (-d.exponent).toNat)) =
      Binary64.nearest? d.negative num den := by
  by_cases h : 0 ≤ d.exponent
  · obtain ⟨n, hn⟩ := Int.eq_ofNat_of_zero_le h
    refine ⟨_, _, one_ne_zero, ?_, if_pos h⟩
    rw [value, hn]
    simp
  · obtain ⟨n, hn⟩ := Int.eq_ofNat_of_zero_le (Int.neg_nonneg_of_nonpos (Int.le_of_not_le h))
    refine ⟨_, _, ?_, ?_, if_neg h⟩
    · exact (Nat.pow_pos (by decide)).ne'
    · rw [value, show d.exponent = -(n : ℤ) by omega]
      simp [div_eq_mul_inv]

/-- A decimal is read as the double nearest to it. -/
theorem roundsTo_of_toBinary64? {d : Decimal} {x : Binary64} (h : d.toBinary64? = some x) :
    RoundsTo d.value x.value := by
  rw [toBinary64?] at h
  split at h
  next hsmall =>
    have hvalue : x.value = withSign d.negative 0 := by
      cases h
      rw [Binary64.value_eq]
      simp [Binary64.zero]
    rw [hvalue]
    refine RoundsTo.withSign (roundsTo_zero ?_) d.negative
    by_cases hzero : d.coefficient = 0
    · simp [hzero]
    · have hsize : (Nat.toDigits 10 d.coefficient).length + d.exponent < -330 := by
        simpa [hzero] using hsmall
      rw [abs_of_nonneg (by positivity)]
      calc (d.coefficient : ℚ) * 10 ^ d.exponent
          ≤ 10 ^ ((Nat.toDigits 10 d.coefficient).length + d.exponent) :=
            (magnitude_between_powers hzero d.exponent).2.le
        _ ≤ 10 ^ (-330 : ℤ) := zpow_le_zpow_right₀ (by norm_num) hsize.le
        _ ≤ 2 ^ (-1075 : ℤ) := by
          have hpowers : 2 ^ 1075 ≤ 10 ^ 330 := by decide +kernel
          rw [zpow_neg, zpow_neg]
          gcongr
          exact_mod_cast hpowers
  next =>
    split at h
    next => cases h
    next =>
      obtain ⟨num, den, hden, hvalue, hnearest⟩ := d.quotient_eq
      rw [hvalue]
      exact Binary64.roundsTo_of_nearest? hden (hnearest.symm.trans h)

theorem overflows_of_toBinary64?_eq_none {d : Decimal} (h : d.toBinary64? = none) :
    Overflows d.value := by
  rw [toBinary64?] at h
  split at h
  next => cases h
  next hlarge =>
    have hzero : d.coefficient ≠ 0 := by
      intro hzero
      simp [hzero] at hlarge
    split at h
    next hsize =>
      refine (overflows_of_le ?_).withSign d.negative
      rw [abs_of_nonneg (by positivity)]
      have hpowers : 2 ^ 53 * 2 ^ 971 ≤ 10 ^ 310 := by decide +kernel
      calc (2 ^ 53 - 1 / 2 : ℚ) * 2 ^ (971 : ℤ) ≤ 2 ^ 53 * 2 ^ (971 : ℤ) := by
            gcongr
            norm_num
        _ ≤ 10 ^ (310 : ℤ) := by exact_mod_cast hpowers
        _ ≤ 10 ^ ((Nat.toDigits 10 d.coefficient).length + d.exponent - 1) :=
            zpow_le_zpow_right₀ (by norm_num) (by omega)
        _ ≤ d.coefficient * 10 ^ d.exponent := (magnitude_between_powers hzero d.exponent).1
    next =>
      obtain ⟨num, den, hden, hvalue, hnearest⟩ := d.quotient_eq
      rw [hvalue]
      exact Binary64.overflows_of_nearest?_eq_none hden (hnearest.symm.trans h)

theorem read?_digits {t : Text} (hne : t ≠ []) (h : ∀ c ∈ t, c.isDigit = true) :
    read? t = some ⟨false, Nat.ofDigitChars 10 t 0, 0⟩ := by
  obtain ⟨c, rest, rfl⟩ := List.exists_cons_of_ne_nil hne
  have hc := h c List.mem_cons_self
  have hsign : sign (c :: rest) = (false, c :: rest) := by
    unfold sign
    split
    next heq =>
      cases heq
      cases hc
    next heq =>
      cases heq
      cases hc
    next => rfl
  have hspan : (c :: rest).span Char.isDigit = (c :: rest, []) := by
    rw [List.span_eq_takeWhile_dropWhile, List.takeWhile_eq_self_iff.mpr h,
      List.dropWhile_eq_nil_iff.mpr h]
  rw [read?, hsign]
  simp only [hspan, fractionDigits, exponent?, guard, List.append_nil]
  rfl

/-- A whole number of up to 53 bits is read as itself. -/
theorem exists_toBinary64?_of_lt {n : ℕ} (h : n < 2 ^ 53) :
    ∃ x, toBinary64? ⟨false, n, 0⟩ = some x ∧ x.value = n := by
  have hvalue : value ⟨false, n, 0⟩ = n := by simp [value, withSign]
  cases hx : toBinary64? ⟨false, n, 0⟩ with
  | none =>
    have hover := overflows_of_toBinary64?_eq_none hx
    rw [hvalue] at hover
    exact absurd (isDouble_natCast h) (not_isDouble_of_overflows hover)
  | some x =>
    have hrounds := roundsTo_of_toBinary64? hx
    rw [hvalue] at hrounds
    exact ⟨x, rfl, hrounds.eq_of_isDouble (isDouble_natCast h)⟩

/-- A whole number is not read as less than a smaller one of up to 53 bits. -/
theorem le_value_of_toBinary64? {n : ℕ} {x : Binary64} (hx : toBinary64? ⟨false, n, 0⟩ = some x)
    {k : ℕ} (hk : k < 2 ^ 53) (hle : k ≤ n) : (k : ℚ) ≤ x.value := by
  have hrounds := roundsTo_of_toBinary64? hx
  rw [show value ⟨false, n, 0⟩ = n by simp [value, withSign]] at hrounds
  exact hrounds.le_of_isDouble (isDouble_natCast hk) (by exact_mod_cast hle)

end Decimal

end GatewayConfig
