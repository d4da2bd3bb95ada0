import DiskFleet.Number.Binary
import Mathlib.Algebra.Order.Field.Power
import Mathlib.Algebra.Order.Round
import Mathlib.Data.Int.Log
import Mathlib.Data.Rat.Floor
import Mathlib.Tactic.FieldSimp
import Mathlib.Tactic.Positivity

/-!
# What 53 binary digits hold exactly

`nearest?` works on natural numbers: it guesses an exponent from the lengths of numerator and
denominator, corrects the guess by one comparison and divides. Here the three steps are read as what
they say of the quotient `x = num / den`: the exponent is that of the leading digit of `x`, 52 places
further down (`exponentFor_eq`), and the division is that of `x` by the power of two.

From the exponent it follows that a quotient that *has* 53 binary digits is divided without a
remainder, so that nothing is rounded and nothing is too large.

## Main results

* `exponentFor_eq`: the exponent of a quotient;
* `nearest?_of_representable`: what 53 binary digits can hold is held as it is;
* `Binary.roundShifted_eq`: the whole bytes of a number and a unit are the product, rounded.
-/

namespace DiskFleet.Number

/-- The value that is held. -/
def Binary.toRat (value : Binary) : ℚ := value.mantissa * 2 ^ value.exponent

/-- The values that can be held: 53 binary digits in front of a power of two in range. -/
def Representable (x : ℚ) : Prop :=
  ∃ (mantissa : ℕ) (exponent : ℤ),
    mantissa < 2 ^ 53 ∧ -1074 ≤ exponent ∧ exponent ≤ 971 ∧ x = mantissa * 2 ^ exponent

/-- A natural number of at most 53 binary digits is its own mantissa. -/
theorem representable_natCast {n : ℕ} (h : n < 2 ^ 53) : Representable n :=
  ⟨n, 0, h, by decide, by decide, by simp⟩

variable {num den : ℕ} {exponent : ℤ}

theorem twoPow_eq (n : ℕ) : twoPow n = 2 ^ n := rfl

theorem cast_twoPow_toNat (h : 0 ≤ exponent) : (twoPow exponent.toNat : ℚ) = 2 ^ exponent := by
  rw [twoPow_eq, Nat.cast_pow, ← zpow_natCast, Int.toNat_of_nonneg h]
  rfl

/-! ## A quotient over a power of two

Both the comparison behind the exponent and the division behind the mantissa put the power of two
where its exponent is natural: under the denominator, or, inverted, beside the numerator. -/

theorem div_mul_twoPow (h : 0 ≤ exponent) :
    (num : ℚ) / (den * twoPow exponent.toNat : ℕ) = num / den / 2 ^ exponent := by
  rw [Nat.cast_mul, cast_twoPow_toNat h, div_div]

theorem mul_twoPow_div (h : ¬0 ≤ exponent) :
    ((num * twoPow (-exponent).toNat : ℕ) : ℚ) / den = num / den / 2 ^ exponent := by
  rw [Nat.cast_mul, cast_twoPow_toNat (by omega), zpow_neg]
  ring

/-! ## The mantissa -/

/-- A division without a remainder is not rounded. -/
theorem divToEven_of_eq {quotient : ℕ} (hDen : den ≠ 0) (h : (num : ℚ) / den = quotient) :
    divToEven num den = quotient := by
  obtain rfl : num = quotient * den := by
    rw [div_eq_iff (Nat.cast_ne_zero.2 hDen)] at h
    exact_mod_cast h
  have hPositive : 0 < den := Nat.pos_of_ne_zero hDen
  simp [divToEven, hPositive]

/-- Nor is one by a power of two. -/
theorem scaledToEven_of_eq {quotient : ℕ} (hDen : den ≠ 0)
    (h : (num : ℚ) / den = quotient * 2 ^ exponent) :
    scaledToEven num den exponent = quotient := by
  have hDivided : (num : ℚ) / den / 2 ^ exponent = quotient := by
    rw [h, mul_div_cancel_right₀ _ (by positivity)]
  unfold scaledToEven
  split
  · next hUp =>
    exact divToEven_of_eq (Nat.mul_ne_zero hDen (twoPow_pos _).ne') (div_mul_twoPow hUp ▸ hDivided)
  · next hDown => exact divToEven_of_eq hDen (mul_twoPow_div hDown ▸ hDivided)

/-! ## The exponent -/

/-- The leading digit of a quotient is where the lengths of its parts put it, or one place below. -/
theorem log_div_bounds (hNum : num ≠ 0) (hDen : den ≠ 0) :
    (num.log2 : ℤ) - den.log2 - 1 ≤ Int.log 2 ((num : ℚ) / den) ∧
      Int.log 2 ((num : ℚ) / den) < num.log2 - den.log2 + 1 := by
  have hDenPos : (0 : ℚ) < den := by positivity
  have hPos : (0 : ℚ) < num / den := by positivity
  have hNumLow : (2 : ℚ) ^ (num.log2 : ℤ) ≤ num := by exact_mod_cast Nat.log2_self_le hNum
  have hNumHigh : (num : ℚ) < 2 ^ (num.log2 + 1 : ℤ) := by exact_mod_cast Nat.lt_log2_self
  have hDenLow : (2 : ℚ) ^ (den.log2 : ℤ) ≤ den := by exact_mod_cast Nat.log2_self_le hDen
  have hDenHigh : (den : ℚ) < 2 ^ (den.log2 + 1 : ℤ) := by exact_mod_cast Nat.lt_log2_self
  constructor
  · rw [← Int.zpow_le_iff_le_log one_lt_two hPos, Nat.cast_ofNat, le_div_iff₀ hDenPos]
    calc (2 : ℚ) ^ ((num.log2 : ℤ) - den.log2 - 1) * den
      _ ≤ 2 ^ ((num.log2 : ℤ) - den.log2 - 1) * 2 ^ (den.log2 + 1 : ℤ) := by gcongr
      _ = 2 ^ (num.log2 : ℤ) := by rw [← zpow_add₀ two_ne_zero]; congr 1; ring
      _ ≤ num := hNumLow
  · rw [← Int.lt_zpow_iff_log_lt one_lt_two hPos, Nat.cast_ofNat, div_lt_iff₀ hDenPos]
    calc (num : ℚ)
      _ < 2 ^ (num.log2 + 1 : ℤ) := hNumHigh
      _ = 2 ^ ((num.log2 : ℤ) - den.log2 + 1) * 2 ^ (den.log2 : ℤ) := by
          rw [← zpow_add₀ two_ne_zero]; congr 1; ring
      _ ≤ 2 ^ ((num.log2 : ℤ) - den.log2 + 1) * den := by gcongr

/-- The comparison that corrects the guess is with the place of the leading digit. -/
theorem div_zpow_lt_iff (hNum : num ≠ 0) (hDen : den ≠ 0) (exponent : ℤ) :
    (num : ℚ) / den / 2 ^ exponent < 2 ^ 52 ↔
      Int.log 2 ((num : ℚ) / den) < exponent + 52 := by
  have hPos : (0 : ℚ) < num / den := by positivity
  rw [← Int.lt_zpow_iff_log_lt one_lt_two hPos, Nat.cast_ofNat, zpow_add₀ two_ne_zero,
    div_lt_iff₀' (by positivity)]
  rfl

theorem lt_twoPow_mul_iff (hDen : den ≠ 0) :
    num < twoPow 52 * den ↔ (num : ℚ) / den < 2 ^ 52 := by
  rw [div_lt_iff₀ (by positivity), twoPow_eq]
  exact_mod_cast Iff.rfl

/-- **The exponent of a quotient**: 52 places below its leading digit, but not below the least. -/
theorem exponentFor_eq (hNum : num ≠ 0) (hDen : den ≠ 0) :
    exponentFor num den = max (Int.log 2 ((num : ℚ) / den) - 52) (-1074) := by
  obtain ⟨hLow, hHigh⟩ := log_div_bounds hNum hDen
  have hCompare := div_zpow_lt_iff hNum hDen ((num.log2 : ℤ) - den.log2 - 52)
  unfold exponentFor
  dsimp only
  congr 1
  by_cases hUp : 0 ≤ (num.log2 : ℤ) - den.log2 - 52
  · rw [← div_mul_twoPow hUp, ← lt_twoPow_mul_iff (Nat.mul_ne_zero hDen (twoPow_pos _).ne')]
      at hCompare
    simp only [hUp, if_true, decide_eq_true_eq, hCompare]
    split <;> omega
  · rw [← mul_twoPow_div hUp, ← lt_twoPow_mul_iff hDen] at hCompare
    simp only [hUp, if_false, decide_eq_true_eq, hCompare]
    split <;> omega

/-- With 53 binary digits in front of a power of two, the exponent comes out no larger than that. -/
theorem exponentFor_le {mantissa : ℕ} (hNum : num ≠ 0) (hDen : den ≠ 0)
    (hMantissa : mantissa < 2 ^ 53) (hLeast : -1074 ≤ exponent)
    (h : (num : ℚ) / den = mantissa * 2 ^ exponent) : exponentFor num den ≤ exponent := by
  have hPos : (0 : ℚ) < num / den := by positivity
  have hLog : Int.log 2 ((num : ℚ) / den) < 53 + exponent := by
    rw [← Int.lt_zpow_iff_log_lt one_lt_two hPos, Nat.cast_ofNat, h, zpow_add₀ two_ne_zero]
    have hCast : (mantissa : ℚ) < 2 ^ (53 : ℤ) := by exact_mod_cast hMantissa
    gcongr
  rw [exponentFor_eq hNum hDen]
  omega

/-! ## Nothing is lost -/

/-- **What 53 binary digits can hold is held as it is.** -/
theorem nearest?_of_representable (hDen : den ≠ 0) (h : Representable ((num : ℚ) / den)) :
    ∃ value, nearest? num den = some value ∧ value.toRat = (num : ℚ) / den := by
  obtain ⟨mantissa, exponent, hMantissa, hLeast, hMost, hValue⟩ := h
  by_cases hNum : num = 0
  · exact ⟨⟨0, 0⟩, by simp [nearest?, hNum], by simp [hNum, Binary.toRat]⟩
  have hLe := exponentFor_le hNum hDen hMantissa hLeast hValue
  -- where the exponent comes out less than the one given, the mantissa gets zeros at its end
  obtain ⟨zeros, hZeros⟩ := Int.le.dest hLe
  have hShifted : (num : ℚ) / den =
      (mantissa * 2 ^ zeros : ℕ) * 2 ^ exponentFor num den := by
    rw [hValue, ← hZeros, zpow_add₀ two_ne_zero, zpow_natCast]
    push_cast
    ring
  have hHeld := scaledToEven_of_eq hDen hShifted
  have hFits : ¬(971 < exponentFor num den ∨
      exponentFor num den = 971 ∧ twoPow 53 ≤ mantissa * 2 ^ zeros) := by
    rintro (hLarge | ⟨hLast, hLarge⟩)
    · omega
    · obtain rfl : zeros = 0 := by omega
      rw [twoPow_eq, pow_zero, mul_one] at hLarge
      omega
  refine ⟨⟨mantissa * 2 ^ zeros, exponentFor num den⟩, ?_, hShifted.symm⟩
  simp only [nearest?, if_neg hNum, hHeld, if_neg hFits]

/-! ## Whole bytes -/

/-- **A number in a unit, in whole bytes**, is the product rounded, with a half going up. -/
theorem Binary.roundShifted_eq (value : Binary) (shift : ℕ) :
    (value.roundShifted shift : ℤ) = round (value.toRat * 2 ^ shift) := by
  have hProduct : value.toRat * 2 ^ shift = value.mantissa * 2 ^ (value.exponent + shift) := by
    rw [toRat, zpow_add₀ two_ne_zero, zpow_natCast, mul_assoc]
  rw [hProduct]
  unfold roundShifted
  dsimp only
  split
  · next hUp => rw [← cast_twoPow_toNat hUp, ← Nat.cast_mul, round_natCast]
  · next hDown =>
    have hDen : twoPow (-(value.exponent + shift)).toNat ≠ 0 := (twoPow_pos _).ne'
    have hPower : (2 : ℚ) ^ (value.exponent + shift) =
        (twoPow (-(value.exponent + shift)).toNat : ℚ)⁻¹ := by
      rw [cast_twoPow_toNat (by omega), zpow_neg, inv_inv]
    rw [hPower]
    generalize twoPow (-(value.exponent + shift)).toNat = den at hDen
    rw [round_eq, show (value.mantissa : ℚ) * (den : ℚ)⁻¹ + 1 / 2 =
      (2 * value.mantissa + den : ℕ) / (2 * den : ℕ) by push_cast; field_simp,
      Rat.floor_natCast_div_natCast]
    rfl

end DiskFleet.Number
