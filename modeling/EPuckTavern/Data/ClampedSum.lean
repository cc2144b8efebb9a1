import Mathlib.Algebra.Order.Group.MinMax
import Mathlib.Algebra.Order.Monoid.Unbundled.MinMax
import Mathlib.Logic.Function.Iterate

namespace EPuckTavern.Data

/-!
# Sums that are clamped after every addition

An accumulator that never leaves the range from `-limit` to `limit`.  Whatever
it has wound up to, a constant increment takes it away from there at its full
rate: only the limit on the other side holds it up.
-/

variable {α : Type} [AddCommGroup α] [LinearOrder α]

/-- A value cut off at a limit on both sides. -/
def clamp (limit value : α) : α :=
  max (-limit) (min value limit)

/-- The sum after `count` additions of one increment. -/
def clampedSum (limit increment : α) (count : Nat) (start : α) : α :=
  (fun sum => clamp limit (sum + increment))^[count] start

/-- The last increment of a sum that is clamped at each step. -/
theorem clampedSum_succ
    (limit increment : α)
    (count : Nat)
    (start : α) :
    clampedSum limit increment (count + 1) start =
      clamp limit (clampedSum limit increment count start + increment) :=
  Function.iterate_succ_apply' _ count start

/-- The limit holds below. -/
theorem neg_le_clamp (limit value : α) :
    -limit ≤ clamp limit value :=
  le_max_left _ _

/-- Clamping below only raises a value. -/
theorem min_le_clamp (limit value : α) :
    min value limit ≤ clamp limit value :=
  le_max_right _ _

variable [IsOrderedAddMonoid α]

/-- The limit holds above. -/
theorem clamp_le
    {limit : α}
    (nonnegative : 0 ≤ limit)
    (value : α) :
    clamp limit value ≤ limit :=
  max_le (neg_le_self nonnegative) (min_le_right _ _)

theorem clamp_neg
    {limit : α}
    (nonnegative : 0 ≤ limit)
    (value : α) :
    clamp limit (-value) = -clamp limit value := by
  have ordered : -limit ≤ limit := neg_le_self nonnegative
  calc
    clamp limit (-value)
        = max (-limit) (min (-value) (- -limit)) := by
          rw [neg_neg, clamp]
    _ = max (-limit) (-max value (-limit)) := by rw [min_neg_neg]
    _ = -min limit (max value (-limit)) := max_neg_neg _ _
    _ = -clamp limit value := by
          rw [clamp, max_comm value, max_min_distrib_left,
            max_eq_right ordered, min_comm]

theorem clampedSum_neg
    {limit : α}
    (nonnegative : 0 ≤ limit)
    (increment : α)
    (count : Nat)
    (start : α) :
    clampedSum limit (-increment) count (-start) =
      -clampedSum limit increment count start := by
  induction count with
  | zero => rfl
  | succ count inductionHypothesis =>
      rw [clampedSum_succ, clampedSum_succ, inductionHypothesis,
        ← neg_add, clamp_neg nonnegative]

/-- An increment upwards: the sum has left the lower limit behind. -/
theorem le_clampedSum
    {limit increment start : α}
    (upwards : 0 ≤ increment)
    (within : -limit ≤ start)
    (count : Nat) :
    min (-limit + count • increment) limit ≤
      clampedSum limit increment count start := by
  induction count with
  | zero =>
      rw [zero_nsmul, add_zero]
      exact min_le_of_left_le within
  | succ count inductionHypothesis =>
      have added :
          min (-limit + (count + 1) • increment) (limit + increment) ≤
            clampedSum limit increment count start + increment := by
        rw [succ_nsmul, ← add_assoc, min_add_add_right]
        exact add_le_add_left inductionHypothesis increment
      have unclamped :
          min (-limit + (count + 1) • increment) limit ≤
            clampedSum limit increment count start + increment :=
        (min_le_min_left _ (le_add_of_nonneg_right upwards)).trans added
      rw [clampedSum_succ]
      exact (le_min unclamped (min_le_right _ _)).trans
        (min_le_clamp _ _)

/-- An increment downwards: the same from the upper limit. -/
theorem clampedSum_le
    {limit increment start : α}
    (nonnegative : 0 ≤ limit)
    (downwards : increment ≤ 0)
    (within : start ≤ limit)
    (count : Nat) :
    clampedSum limit increment count start ≤
      max (limit + count • increment) (-limit) := by
  have mirrored :=
    le_clampedSum (neg_nonneg.mpr downwards) (neg_le_neg within) count
  rw [clampedSum_neg nonnegative, le_neg] at mirrored
  refine mirrored.trans (le_of_eq ?_)
  rw [← max_neg_neg, neg_add, neg_neg, neg_nsmul, neg_neg]

end EPuckTavern.Data
