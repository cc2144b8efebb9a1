import EPuckTavern.WayBack

namespace EPuckTavern.DistanceApproach

/-!
# How far `distance_approach` takes the robot

The distance becomes steps, the steps milliseconds, and both are truncated:
less than two steps get lost.  All of it is lost where the step count does not
fit `int16_t` and wraps.
-/

/-- The distance [mm] in steps. -/
def exactSteps (distApproach : Int) : ℚ :=
  (distApproach * nstepOneTurn : Int) / perimeterEpuckMm

/-- What `distance_approach` is asked for. -/
structure Travels (distApproach : Int) : Prop where
  near : |travelled distApproach - exactSteps distApproach| < 2
  /-- `chThdSleepMilliseconds` is not called with 0. -/
  sleeps :
    ∀ point,
      next? distApproach point = some .sleep →
      timeApproach distApproach ≠ 0

theorem timeApproach_ne_zero
    {distApproach : Int}
    {point : Pc}
    (sleeps : next? distApproach point = some .sleep) :
    timeApproach distApproach ≠ 0 := by
  cases point with
  | driveRight =>
      intro zero
      rw [next?, if_neg (not_not.mpr zero)] at sleeps
      cases sleeps
  | driveLeft | sleep | stopLeft | stopRight => cases sleeps

theorem exactSteps_neg (distApproach : Int) :
    exactSteps (-distApproach) = -exactSteps distApproach := by
  rw [exactSteps, exactSteps, Int.neg_mul, Int.cast_neg, neg_div]

theorem exactSteps_nonneg
    {distApproach : Int}
    (forwards : 0 ≤ distApproach) :
    0 ≤ exactSteps distApproach := by
  have steps : (0 : ℚ) ≤ (distApproach * nstepOneTurn : Int) := by
    exact_mod_cast Int.mul_nonneg forwards (by decide)
  exact div_nonneg steps (by norm_num [perimeterEpuckMm])

/-- The milliseconds stand for the steps, but for less than one of them. -/
theorem timeApproach_bounds (distApproach : Int) :
    600 * ((timeApproach distApproach : ℚ) / 1000) ≤
        |(stepApproach distApproach : ℚ)| ∧
      |(stepApproach distApproach : ℚ)| <
        600 * ((timeApproach distApproach : ℚ) / 1000) + 6 / 10 := by
  have quotient :
      timeApproach distApproach * 600 ≤
          1000 * ((stepApproach distApproach).natAbs : Int) ∧
        1000 * ((stepApproach distApproach).natAbs : Int) <
          timeApproach distApproach * 600 + 600 := by
    simp only [timeApproach, speedApproach]
    omega
  rw [Int.natCast_natAbs] at quotient
  have below :
      (timeApproach distApproach : ℚ) * 600 ≤
        1000 * |(stepApproach distApproach : ℚ)| := by
    exact_mod_cast quotient.1
  have above :
      1000 * |(stepApproach distApproach : ℚ)| <
        timeApproach distApproach * 600 + 600 := by
    exact_mod_cast quotient.2
  constructor <;> linarith

/-- Forwards both truncations round down. -/
theorem travelled_bounds
    {distApproach : Int}
    (forwards : 0 ≤ distApproach)
    (fits : Fits distApproach) :
    travelled distApproach ≤ exactSteps distApproach ∧
      exactSteps distApproach < travelled distApproach + 16 / 10 := by
  have nonnegative := exactSteps_nonneg forwards
  have narrowed :
      stepApproach distApproach = truncate (exactSteps distApproach) :=
    toInt16_eq_self_iff.mpr fits
  have floored : stepApproach distApproach = ⌊exactSteps distApproach⌋ := by
    rw [narrowed, truncate_eq_floor nonnegative]
  have steps :
      |(stepApproach distApproach : ℚ)| = ⌊exactSteps distApproach⌋ := by
    rw [floored, abs_of_nonneg]
    exact_mod_cast Int.floor_nonneg.mpr nonnegative
  obtain ⟨below, above⟩ := timeApproach_bounds distApproach
  rw [steps] at below above
  have floor_le := Int.floor_le (exactSteps distApproach)
  have lt_floor := Int.lt_floor_add_one (exactSteps distApproach)
  simp only [travelled, speed, forwards, ↓reduceIte,
    speedApproach, Int.cast_ofNat]
  constructor <;> linarith

/-- Without a wrap the two divisions lose less than two steps. -/
theorem near_of_fits
    {distApproach : Int}
    (fits : Fits distApproach) :
    |travelled distApproach - exactSteps distApproach| < 2 := by
  rcases le_total 0 distApproach with forwards | backwards
  · obtain ⟨below, above⟩ := travelled_bounds forwards fits
    rw [abs_lt]
    constructor <;> linarith
  · have mirrored : Fits (-distApproach) := by
      rw [fits_iff] at fits ⊢
      omega
    obtain ⟨below, above⟩ :=
      travelled_bounds (neg_nonneg.mpr backwards) mirrored
    rw [travelled_neg, exactSteps_neg] at below above
    rw [abs_lt]
    constructor <;> linarith

/-- An `int16_t` does not hold more steps, whatever was asked for. -/
theorem abs_travelled_le (distApproach : Int) :
    |travelled distApproach| ≤ 32768 := by
  have held : |stepApproach distApproach| ≤ 32768 := by
    simp only [stepApproach, toInt16, Int.bmod, abs_le]
    omega
  have steps : |(stepApproach distApproach : ℚ)| ≤ 32768 := by
    exact_mod_cast held
  have duration : (0 : ℚ) ≤ timeApproach distApproach := by
    have nonnegative : 0 ≤ timeApproach distApproach :=
      Int.ediv_nonneg (by omega) (by decide)
    exact_mod_cast nonnegative
  have below := (timeApproach_bounds distApproach).1
  have magnitude : |(speed distApproach : ℚ)| = 600 := by
    simp only [speed, speedApproach]
    split <;> norm_num
  rw [travelled, abs_mul, magnitude, abs_of_nonneg (by linarith)]
  linarith

/--
A distance that wraps is out of the range of `int16_t` by more than two steps.
-/
theorem lt_abs_exactSteps
    {distApproach : Int}
    (wraps : ¬ Fits distApproach) :
    32770 < |exactSteps distApproach| := by
  have positive : 0 < perimeterEpuckMm := by
    norm_num [perimeterEpuckMm]
  have far : 5508 ≤ |distApproach| := by
    rw [fits_iff] at wraps
    rw [le_abs]
    omega
  have distance : (5508 : ℚ) ≤ |(distApproach : ℚ)| := by
    exact_mod_cast far
  rw [exactSteps, abs_div, abs_of_pos positive, lt_div_iff₀ positive,
    Int.cast_mul, abs_mul]
  norm_num only [perimeterEpuckMm, nstepOneTurn, Int.cast_ofNat,
    Nat.abs_ofNat]
  linarith

/-- The wrapped step count is another one. -/
theorem not_travels_of_not_fits
    {distApproach : Int}
    (wraps : ¬ Fits distApproach) :
    ¬ Travels distApproach := by
  intro travels
  have asked := lt_abs_exactSteps wraps
  have gone := abs_travelled_le distApproach
  have apart :=
    abs_sub_abs_le_abs_sub (exactSteps distApproach)
      (travelled distApproach)
  rw [abs_sub_comm] at apart
  linarith [travels.near]

/--
For every distance: `distance_approach` travels it to within two steps, and
does not sleep for 0 ms, exactly when it is at most 5507 mm either way.
-/
theorem travels_iff
    (distApproach : Int) :
    Travels distApproach ↔
      -5507 ≤ distApproach ∧ distApproach ≤ 5507 := by
  rw [← fits_iff]
  constructor
  · intro travels
    by_contra wraps
    exact not_travels_of_not_fits wraps travels
  · intro fits
    exact ⟨near_of_fits fits, fun _ sleeps => timeApproach_ne_zero sleeps⟩

/-- The step count of eight metres wraps. -/
theorem eight_metres_wrap :
    ¬ ∀ distApproach, FitsInt16 distApproach → Travels distApproach := by
  intro travels
  have wraps : ¬ Fits 7800 := by
    rw [fits_iff]
    decide
  exact not_travels_of_not_fits wraps (travels 7800 (by decide))

end EPuckTavern.DistanceApproach
