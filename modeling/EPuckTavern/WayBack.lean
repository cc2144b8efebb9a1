import Mathlib.Tactic.Linarith
import Mathlib.Tactic.NormNum
import EPuckTavern.Narrowing
import EPuckTavern.WorkerMotors

namespace EPuckTavern

open Transition

/-!
# The way back

`distance_approach` is called in pairs, with a distance and with its negation,
and between the two calls the robot only waits or turns in place.  Taking
sleeps as exact, the second call undoes the first one: the step count is
truncated towards zero and the time is computed from its absolute value, so
both legs last equally long.
-/

namespace DistanceApproach

/-- The step count of a distance can be held by `step_approach`. -/
def Fits (distApproach : Int) : Prop :=
  FitsInt16
    (truncate ((distApproach * nstepOneTurn : Int) / perimeterEpuckMm))

instance (distApproach : Int) : Decidable (Fits distApproach) :=
  inferInstanceAs (Decidable (FitsInt16 _))

/-- The distances whose steps are in the range of `int16_t`. -/
theorem fits_iff
    {distApproach : Int} :
    Fits distApproach ↔ -5507 ≤ distApproach ∧ distApproach ≤ 5507 := by
  have positive : 0 < perimeterEpuckMm := by
    norm_num [perimeterEpuckMm]
  rw [Fits, fitsInt16_truncate_iff, lt_div_iff₀ positive,
    div_lt_iff₀ positive]
  norm_num only [perimeterEpuckMm, nstepOneTurn, Int.cast_mul]
  constructor
  · rintro ⟨above, below⟩
    constructor
    · by_contra small
      have bound : (distApproach : ℚ) ≤ -5508 := by
        exact_mod_cast (by omega : distApproach ≤ -5508)
      linarith
    · by_contra large
      have bound : (5508 : ℚ) ≤ distApproach := by
        exact_mod_cast (by omega : 5508 ≤ distApproach)
      linarith
  · rintro ⟨above, below⟩
    have lower : (-5507 : ℚ) ≤ distApproach := by exact_mod_cast above
    have upper : (distApproach : ℚ) ≤ 5507 := by exact_mod_cast below
    constructor <;> linarith

/-- The duration of a statement [ms], sleeps taken as exact. -/
def duration (distApproach : Int) : Pc → ℚ
  | .sleep => timeApproach distApproach
  | .driveLeft | .driveRight | .stopLeft | .stopRight => 0

/-- The steps that a call takes the robot forward. -/
def travelled (distApproach : Int) : ℚ :=
  speed distApproach * (timeApproach distApproach / 1000)

theorem timeApproach_neg (distApproach : Int) :
    timeApproach (-distApproach) = timeApproach distApproach := by
  have opposite :
      ((-distApproach * nstepOneTurn : Int) : ℚ) / perimeterEpuckMm =
        -((distApproach * nstepOneTurn : Int) / perimeterEpuckMm) := by
    rw [Int.neg_mul, Int.cast_neg, neg_div]
  simp only [timeApproach, stepApproach, opposite, truncate_neg,
    natAbs_toInt16_neg]

theorem speed_neg
    {distApproach : Int}
    (nonzero : distApproach ≠ 0) :
    speed (-distApproach) = -speed distApproach := by
  simp only [speed]
  split <;> split <;> omega

/-- A call with the negated distance takes the robot back. -/
theorem travelled_neg (distApproach : Int) :
    travelled (-distApproach) = -travelled distApproach := by
  by_cases zero : distApproach = 0
  · have still : timeApproach 0 = 0 := by
      simp [timeApproach, stepApproach, truncate, toInt16]
    simp [travelled, zero, still]
  · rw [travelled, timeApproach_neg, speed_neg zero, Int.cast_neg, neg_mul,
      travelled]

/-- Inside a call that began with the robot at `origin`. -/
def Underway
    (distApproach : Int)
    (origin : ℚ)
    (point : Pc)
    (motors : Motors)
    (displacement : ℚ) : Prop :=
  match point with
  | .driveLeft =>
      displacement = origin
  | .driveRight =>
      displacement = origin ∧ motors.left = speed distApproach
  | .sleep =>
      displacement = origin ∧
        motors = ⟨speed distApproach, speed distApproach⟩
  | .stopLeft =>
      displacement = origin + travelled distApproach
  | .stopRight =>
      displacement = origin + travelled distApproach ∧
        motors.left = speedStop

/-- Step lemma for a call of `distance_approach`. -/
theorem underway_next
    {distApproach : Int}
    {origin displacement elapsed : ℚ}
    {point following : Pc}
    {motors : Motors}
    (underway : Underway distApproach origin point motors displacement)
    (exact : elapsed = duration distApproach point)
    (advances : next? distApproach point = some following) :
    Underway distApproach origin following
      (motors.after (command? distApproach point))
      (displacement + motors.advance elapsed) := by
  subst exact
  cases point with
  | driveLeft =>
      cases advances
      simp only [Underway] at underway
      simp [Underway, command?, duration, underway]
  | driveRight =>
      obtain ⟨atOrigin, left⟩ := underway
      by_cases waits : timeApproach distApproach = 0
      · rw [next?, if_neg (not_not.mpr waits)] at advances
        cases advances
        simp [Underway, duration, travelled, waits, atOrigin]
      · rw [next?, if_pos waits] at advances
        cases advances
        simp [Underway, command?, duration, atOrigin, left]
  | sleep =>
      cases advances
      obtain ⟨rfl, rfl⟩ := underway
      simp [Underway, duration, Motors.advance, Motors.forward, travelled]
  | stopLeft =>
      cases advances
      simp only [Underway] at underway
      simp [Underway, command?, duration, underway]
  | stopRight => cases advances

/-- When `distance_approach` returns, the robot has stopped at its distance. -/
theorem underway_return
    {distApproach : Int}
    {origin displacement elapsed : ℚ}
    {point : Pc}
    {motors : Motors}
    (underway : Underway distApproach origin point motors displacement)
    (exact : elapsed = duration distApproach point)
    (returns : next? distApproach point = none) :
    motors.after (command? distApproach point) = .stopped ∧
      displacement + motors.advance elapsed =
        origin + travelled distApproach := by
  subst exact
  cases point with
  | stopRight =>
      obtain ⟨gone, left⟩ := underway
      refine ⟨Motors.eq_stopped left rfl, ?_⟩
      simp [duration, gone]
  | driveRight =>
      simp only [next?] at returns
      split at returns <;> cases returns
  | driveLeft | sleep | stopLeft => cases returns

end DistanceApproach

/-- How far the robot is from its start when a leg begins. -/
def Scan.Leg.origin (distApproach : Int) : Scan.Leg → ℚ
  | .approach => 0
  | .retreat => DistanceApproach.travelled distApproach

/-- The retreat ends where the approach began. -/
theorem Scan.Leg.back
    {distApproach : Int}
    (fits : DistanceApproach.Fits distApproach) :
    Leg.retreat.origin distApproach +
        DistanceApproach.travelled (Leg.retreat.distance distApproach) =
      0 := by
  have bounds := DistanceApproach.fits_iff.mp fits
  have narrowed : toInt16 (-distApproach) = -distApproach := by
    rw [toInt16_eq_self_iff, FitsInt16]
    omega
  simp [Leg.origin, Leg.distance, narrowed,
    DistanceApproach.travelled_neg]

/-- What a worker's statements do with time and distance. -/
structure Timetable (program : WorkerProgram) where
  /-- The duration [ms]; `none` for a wait that others may end. -/
  lasts : program.Local → Option ℚ
  /-- The argument of the call of `distance_approach` that starts here. -/
  passes : program.Local → Option Int

/--
Sleeps are exact, other statements take no time, and `distance_approach` is
passed distances whose step count fits.
-/
def Timetable.Exact
    {program : WorkerProgram}
    (timetable : Timetable program)
    (state : Solo program) : Solo.Action program → Prop
  | .flags _ => True
  | .statement _ elapsed =>
      (∀ time ∈ timetable.lasts state.thread, elapsed = time) ∧
        ∀ distance ∈ timetable.passes state.thread,
          DistanceApproach.Fits distance

instance
    {program : WorkerProgram}
    (timetable : Timetable program)
    (state : Solo program) :
    ∀ action, Decidable (timetable.Exact state action)
  | .flags _ => .isTrue trivial
  | .statement _ _ => inferInstanceAs (Decidable (_ ∧ _))

/-- The call `leg` of a pair, on a robot that set out from where it stood. -/
def Scan.Leg.Underway
    (leg : Scan.Leg)
    (distApproach : Int)
    (point : DistanceApproach.Pc)
    (motors : Motors)
    (displacement : ℚ) : Prop :=
  ((leg = .approach ∧ point = .driveLeft) ∨
      DistanceApproach.Fits distApproach) ∧
    DistanceApproach.Underway (leg.distance distApproach)
      (leg.origin distApproach) point motors displacement

/-- The robot has stopped where the approach ended. -/
def Away
    (distApproach : Int)
    (motors : Motors)
    (displacement : ℚ) : Prop :=
  DistanceApproach.Fits distApproach ∧ motors = .stopped ∧
    displacement = DistanceApproach.travelled distApproach

/-- The robot is where it set out from and, at most, turns in place. -/
def Home (motors : Motors) (displacement : ℚ) : Prop :=
  motors.forward = 0 ∧ displacement = 0

/-- A robot that stands still stays away. -/
theorem Away.rest
    {distApproach : Int}
    {motors : Motors}
    {displacement : ℚ}
    (away : Away distApproach motors displacement)
    (elapsed : ℚ) :
    Away distApproach motors (displacement + motors.advance elapsed) := by
  obtain ⟨fits, rfl, gone⟩ := away
  refine ⟨fits, rfl, ?_⟩
  rw [Motors.advance_of_forward Motors.forward_stopped, add_zero, gone]

/-- A robot that stands still, or turns, stays home. -/
theorem Home.rest
    {motors : Motors}
    {displacement : ℚ}
    (home : Home motors displacement)
    (elapsed : ℚ) :
    Home motors (displacement + motors.advance elapsed) := by
  obtain ⟨inPlace, rfl⟩ := home
  exact ⟨inPlace, by rw [Motors.advance_of_forward inPlace, add_zero]⟩

namespace Scan.Leg

variable
  {leg : Scan.Leg}
  {distApproach : Int}
  {point following : DistanceApproach.Pc}
  {motors : Motors}
  {displacement elapsed : ℚ}

/-- The condition on a call, wherever inside it the robot is. -/
theorem Underway.fits
    (underway : leg.Underway distApproach point motors displacement)
    (passed :
      point = .driveLeft →
        DistanceApproach.Fits (leg.distance distApproach)) :
    DistanceApproach.Fits distApproach := by
  rcases underway.1 with ⟨rfl, starts⟩ | fits
  · exact passed starts
  · exact fits

/-- Within the call, the robot is as far as its statements tell. -/
theorem underway_next
    (underway : leg.Underway distApproach point motors displacement)
    (passed :
      point = .driveLeft →
        DistanceApproach.Fits (leg.distance distApproach))
    (exact :
      elapsed =
        DistanceApproach.duration (leg.distance distApproach) point)
    (advances :
      DistanceApproach.next? (leg.distance distApproach) point =
        some following) :
    leg.Underway distApproach following
      (motors.after
        (DistanceApproach.command? (leg.distance distApproach) point))
      (displacement + motors.advance elapsed) :=
  ⟨.inr (underway.fits passed),
    DistanceApproach.underway_next underway.2 exact advances⟩

/-- The approach takes the robot away, and the retreat takes it home. -/
theorem underway_return
    (underway : leg.Underway distApproach point motors displacement)
    (passed :
      point = .driveLeft →
        DistanceApproach.Fits (leg.distance distApproach))
    (exact :
      elapsed =
        DistanceApproach.duration (leg.distance distApproach) point)
    (returns :
      DistanceApproach.next? (leg.distance distApproach) point = none) :
    let stopped := motors.after
      (DistanceApproach.command? (leg.distance distApproach) point)
    let gone := displacement + motors.advance elapsed
    match leg with
    | .approach => Away distApproach stopped gone
    | .retreat => Home stopped gone := by
  have fits := underway.fits passed
  obtain ⟨stopped, gone⟩ :=
    DistanceApproach.underway_return underway.2 exact returns
  rw [stopped, gone]
  cases leg with
  | approach =>
      exact ⟨fits, rfl, zero_add _⟩
  | retreat =>
      exact ⟨Motors.forward_stopped, back fits⟩

/-- The retreat starts from where the approach has left the robot. -/
theorem underway_retreat
    (away : Away distApproach motors displacement) :
    Leg.retreat.Underway distApproach .driveLeft motors displacement :=
  ⟨.inr away.1, away.2.2⟩

end Scan.Leg

end EPuckTavern
