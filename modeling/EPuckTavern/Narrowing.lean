import Mathlib.Data.Rat.Floor
import EPuckTavern.Platform

namespace EPuckTavern

/-!
# Truncation and the range of `int16_t`

Both conversions of `Platform` are odd wherever they matter, and a truncated
value lies between two integers exactly when the value itself does.
-/

theorem truncate_neg (value : ℚ) :
    truncate (-value) = -truncate value := by
  simp only [truncate, Rat.neg_num, Rat.neg_den, Int.neg_tdiv]

/-- Towards zero is downwards on what is not negative. -/
theorem truncate_eq_floor
    {value : ℚ}
    (nonnegative : 0 ≤ value) :
    truncate value = ⌊value⌋ := by
  rw [truncate, Rat.floor_def',
    Int.tdiv_eq_ediv_of_nonneg (Rat.num_nonneg.mpr nonnegative)]

theorem truncate_nonneg
    {value : ℚ}
    (nonnegative : 0 ≤ value) :
    0 ≤ truncate value := by
  rw [truncate_eq_floor nonnegative]
  exact Int.floor_nonneg.mpr nonnegative

theorem truncate_nonpos
    {value : ℚ}
    (nonpositive : value ≤ 0) :
    truncate value ≤ 0 := by
  have opposite := truncate_nonneg (neg_nonneg.mpr nonpositive)
  rw [truncate_neg] at opposite
  exact neg_nonneg.mp opposite

theorem truncate_lt_iff
    {value : ℚ}
    {bound : Int}
    (positive : 0 < bound) :
    truncate value < bound ↔ value < bound := by
  rcases le_total 0 value with nonnegative | nonpositive
  · rw [truncate_eq_floor nonnegative, Int.floor_lt]
  · have below : value < bound :=
      lt_of_le_of_lt nonpositive (Int.cast_pos.mpr positive)
    exact iff_of_true
      (lt_of_le_of_lt (truncate_nonpos nonpositive) positive) below

theorem lt_truncate_iff
    {value : ℚ}
    {bound : Int}
    (positive : 0 < bound) :
    -bound < truncate value ↔ -(bound : ℚ) < value :=
  calc
    -bound < truncate value
        ↔ -truncate value < bound := neg_lt
    _ ↔ truncate (-value) < bound := by rw [truncate_neg]
    _ ↔ -value < bound := truncate_lt_iff positive
    _ ↔ -(bound : ℚ) < value := neg_lt

/-- A value that `int16_t` can hold. -/
def FitsInt16 (value : Int) : Prop :=
  -2 ^ 15 ≤ value ∧ value < 2 ^ 15

instance (value : Int) : Decidable (FitsInt16 value) :=
  inferInstanceAs (Decidable (_ ∧ _))

/-- Only a value in range survives the conversion. -/
theorem toInt16_eq_self_iff
    {value : Int} :
    toInt16 value = value ↔ FitsInt16 value := by
  simp only [toInt16, Int.bmod, FitsInt16]
  omega

/-- Even where a conversion wraps, it does so alike for both signs. -/
theorem natAbs_toInt16_neg (value : Int) :
    (toInt16 (-value)).natAbs = (toInt16 value).natAbs := by
  simp only [toInt16, Int.bmod]
  omega

/-- What is truncated to an `int16_t` lies strictly within one of its range. -/
theorem fitsInt16_truncate_iff
    {value : ℚ} :
    FitsInt16 (truncate value) ↔
      -(2 ^ 15 + 1) < value ∧ value < 2 ^ 15 := by
  have below : -2 ^ 15 ≤ truncate value ↔ -(2 ^ 15 + 1) < truncate value := by
    omega
  have lower := @lt_truncate_iff value (2 ^ 15 + 1) (by decide)
  have upper := @truncate_lt_iff value (2 ^ 15) (by decide)
  rw [FitsInt16, below, lower, upper]
  norm_cast

end EPuckTavern
