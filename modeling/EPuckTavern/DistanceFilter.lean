import EPuckTavern.PidDistance
import EPuckTavern.Data.WordSum

namespace EPuckTavern.PidDistance

open Data

/-!
# The distance filter as a sliding mean

The ring of `get_mean_distance_mm` always holds the last ten readings, but
their sum is kept in a `uint16_t`.  The result is the floor of the exact mean
as long as the sum fits, and is wrong as soon as it does not.
-/

/-- The window after calls with these readings, from the initial one. -/
def windowAfter (readings : List UInt16) : DistanceWindow :=
  readings.foldl
    (fun window distMm => (getMeanDistanceMm window distMm).2)
    Memory.initial.window

/-- What a call returns after calls with the earlier readings. -/
def meanAfter (earlier : List UInt16) (distMm : UInt16) : UInt16 :=
  (getMeanDistanceMm (windowAfter earlier) distMm).1

/-- `S`, the exact sum of the last ten readings; missing ones count as 0. -/
def lastSum (readings : List UInt16) : Nat :=
  exactSum id (readings.reverse.take nbSamples)

/-- The window holds the last ten readings, and zeros before there are ten. -/
theorem newest_windowAfter
    (readings : List UInt16) :
    (windowAfter readings).newest =
      (readings.reverse ++ List.replicate nbSamples 0).take nbSamples :=
  RingBuffer.newest_foldl_push_fill readings 0 (by decide)

/-- The cells that have not been written yet add nothing. -/
theorem exactSum_newest
    (readings : List UInt16) :
    exactSum id (windowAfter readings).newest = lastSum readings := by
  rw [newest_windowAfter, lastSum, List.take_append, exactSum, exactSum,
    List.map_append, List.sum_append, List.take_replicate,
    List.map_replicate]
  simp

/-- The filter is the exact mean of a sum that has wrapped. -/
theorem toNat_meanAfter
    (earlier : List UInt16)
    (distMm : UInt16) :
    (meanAfter earlier distMm).toNat =
      lastSum (earlier ++ [distMm]) % 2 ^ 16 / 10 := by
  have window :
      (windowAfter earlier).push distMm =
        windowAfter (earlier ++ [distMm]) := by
    rw [windowAfter, windowAfter, List.foldl_append]
    rfl
  have permuted :=
    @exactSum_perm _ id _ _
      (windowAfter (earlier ++ [distMm])).cells_perm_newest
  have sum :=
    toNat_foldl_add id (windowAfter (earlier ++ [distMm])).cells 0
  rw [permuted, exactSum_newest, UInt16.toNat_zero, Nat.zero_add] at sum
  rw [meanAfter, getMeanDistanceMm, window, meanOf, UInt16.toNat_div]
  exact congrArg (· / 10) sum

/--
For every sequence of readings: the last call returns the floor of the exact
mean of the last ten exactly when their sum fits `uint16_t`.
-/
theorem meanAfter_eq_iff
    (earlier : List UInt16)
    (distMm : UInt16) :
    (meanAfter earlier distMm).toNat =
        lastSum (earlier ++ [distMm]) / nbSamples ↔
      lastSum (earlier ++ [distMm]) < 2 ^ 16 := by
  rw [toNat_meanAfter, nbSamples]
  omega

/-- The sensor's out-of-range code, for as long as the window. -/
theorem outOfRange_mean :
    ¬ ∀ earlier distMm,
      (∀ reading ∈ earlier ++ [distMm], reading ≤ 8191) →
        (meanAfter earlier distMm).toNat =
          lastSum (earlier ++ [distMm]) / nbSamples := by
  intro exact
  have mean : meanAfter (List.replicate 9 8190) 8190 = 1636 := by decide
  have readings :
      ∀ reading ∈ List.replicate 9 (8190 : UInt16) ++ [8190],
        reading ≤ 8191 := by
    intro reading member
    rw [← List.replicate_succ'] at member
    rw [List.eq_of_mem_replicate member]
    decide
  have sum : lastSum (List.replicate 9 8190 ++ [8190]) = 81900 := rfl
  have sliding := exact (List.replicate 9 8190) 8190 readings
  rw [mean, sum] at sliding
  exact absurd sliding (by decide)

end EPuckTavern.PidDistance
