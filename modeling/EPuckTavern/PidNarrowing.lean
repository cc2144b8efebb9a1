import Mathlib.Tactic.Linarith
import Mathlib.Tactic.NormNum
import EPuckTavern.Narrowing
import EPuckTavern.PidDistance

namespace EPuckTavern.PidDistance

/-!
# The conversion of the command to `int16_t`

`pid_regulator` converts its command before the motor driver limits it.  The
integral part is clamped and never exceeds `MOTOR_SPEED_LIMIT`, but the error
and its change are not.  With floats taken as exact rationals, the command
survives the conversion in every run whose distances stay up to 1526 mm, and
not in every run with distances of one millimetre more.
-/

/-- `distance - goal` -/
def errorOf (distance : UInt16) : ℚ :=
  (distance.toNat : ℚ) - goalDist

/-- The command that a call computes outside of the dead zone. -/
def command (distance : UInt16) (state : PidState) : ℚ :=
  controlSpeed id (errorOf distance)
    (clampSumError id (state.sumError + errorOf distance))
    state.previousError

/-- The call gets past the test of `ERROR_THRESHOLD`. -/
def Regulates (distance : UInt16) : Prop :=
  errorThreshold ≤ |errorOf distance|

instance (distance : UInt16) : Decidable (Regulates distance) :=
  inferInstanceAs (Decidable (_ ≤ _))

/-- What the conversion of the command should not change. -/
structure Survives (distance : UInt16) (state : PidState) : Prop where
  inRange :
    -2 ^ 15 ≤ command distance state ∧
      command distance state ≤ 2 ^ 15 - 1
  returned :
    (pidRegulator id distance goalDist state).1 =
      truncate (command distance state)
  forwards :
    0 < command distance state →
      0 ≤ (pidRegulator id distance goalDist state).1
  backwards :
    command distance state < 0 →
      (pidRegulator id distance goalDist state).1 ≤ 0

/-- The state after calls with these distances, from the initial one. -/
def regulated (distances : List UInt16) : PidState :=
  distances.foldl
    (fun state distance => (pidRegulator id distance goalDist state).2)
    ⟨0, 0⟩

/-- Outside the dead band the regulator returns its command, narrowed twice. -/
theorem pidRegulator_eq
    {distance : UInt16}
    (regulates : Regulates distance)
    (state : PidState) :
    pidRegulator id distance goalDist state =
      (toInt16 (truncate (command distance state)),
        ⟨clampSumError id (state.sumError + errorOf distance),
          errorOf distance⟩) :=
  if_neg (not_lt.mpr regulates)

/-- In the dead band it returns 0 and forgets nothing. -/
theorem pidRegulator_deadZone
    {distance : UInt16}
    (still : ¬ Regulates distance)
    (state : PidState) :
    pidRegulator id distance goalDist state = (0, state) :=
  if_pos (not_le.mp still)

/-- The command, with its three gains. -/
theorem command_eq
    (distance : UInt16)
    (state : PidState) :
    command distance state =
      20 * errorOf distance +
        14 / 10 * clampSumError id (state.sumError + errorOf distance) +
        14 / 10 * (errorOf distance - state.previousError) :=
  rfl

/-- What is in the range survives. -/
theorem survives_of_inRange
    {distance : UInt16}
    {state : PidState}
    (regulates : Regulates distance)
    (inRange :
      -2 ^ 15 ≤ command distance state ∧
        command distance state ≤ 2 ^ 15 - 1) :
    Survives distance state := by
  have fits : FitsInt16 (truncate (command distance state)) := by
    rw [fitsInt16_truncate_iff]
    constructor <;> linarith
  have returned :
      (pidRegulator id distance goalDist state).1 =
        truncate (command distance state) := by
    rw [pidRegulator_eq regulates]
    exact toInt16_eq_self_iff.mpr fits
  refine ⟨inRange, returned, fun positive => ?_, fun negative => ?_⟩
  · rw [returned]
    exact truncate_nonneg (le_of_lt positive)
  · rw [returned]
    exact truncate_nonpos (le_of_lt negative)

/-- At its limit the integral part alone asks for `MOTOR_SPEED_LIMIT`. -/
theorem ki_mul_maxSumError : 14 / 10 * maxSumError id = 1100 := by
  norm_num [maxSumError, motorSpeedLimit, ki]

theorem maxSumError_nonneg : 0 ≤ maxSumError id := by
  have limit := ki_mul_maxSumError
  linarith

/-- The clamp keeps the integral part up to `MOTOR_SPEED_LIMIT`. -/
theorem clampSumError_bounds (sumError : ℚ) :
    -1100 ≤ 14 / 10 * clampSumError id sumError ∧
      14 / 10 * clampSumError id sumError ≤ 1100 := by
  have limit := ki_mul_maxSumError
  rw [clampSumError]
  split
  · constructor <;> linarith
  · split <;> constructor <;> linarith

/-- The errors that distances up to `bound` leave behind. -/
def ErrorWithin (bound : Nat) (error : ℚ) : Prop :=
  -50 ≤ error ∧ (error ≤ 0 ∨ error ≤ bound - 50)

/-- A bounded distance has a bounded error. -/
theorem errorWithin_errorOf
    {bound : Nat}
    {distance : UInt16}
    (within : distance.toNat ≤ bound) :
    ErrorWithin bound (errorOf distance) := by
  have lower : (0 : ℚ) ≤ distance.toNat := Nat.cast_nonneg _
  have upper : (distance.toNat : ℚ) ≤ bound := Nat.cast_le.mpr within
  simp only [ErrorWithin, errorOf, goalDist]
  exact ⟨by linarith, .inr (by linarith)⟩

/-- Step lemma: a call keeps the error it has seen last within the bound. -/
theorem errorWithin_step
    {bound : Nat}
    {distance : UInt16}
    {state : PidState}
    (previous : ErrorWithin bound state.previousError)
    (within : distance.toNat ≤ bound) :
    ErrorWithin bound
      (pidRegulator id distance goalDist state).2.previousError := by
  by_cases regulates : Regulates distance
  · rw [pidRegulator_eq regulates]
    exact errorWithin_errorOf within
  · rw [pidRegulator_deadZone regulates]
    exact previous

/-- Bounded distances leave a bounded previous error behind. -/
theorem errorWithin_foldl
    {bound : Nat}
    {distances : List UInt16}
    (within : ∀ distance ∈ distances, distance.toNat ≤ bound)
    {state : PidState}
    (previous : ErrorWithin bound state.previousError) :
    ErrorWithin bound
      (distances.foldl
        (fun state distance => (pidRegulator id distance goalDist state).2)
        state).previousError := by
  induction distances generalizing state with
  | nil => exact previous
  | cons distance rest inductionHypothesis =>
      exact inductionHypothesis
        (fun later member => within later (List.mem_cons_of_mem _ member))
        (errorWithin_step previous (within distance List.mem_cons_self))

/-- So they do from the start on. -/
theorem errorWithin_regulated
    {bound : Nat}
    {distances : List UInt16}
    (within : ∀ distance ∈ distances, distance.toNat ≤ bound) :
    ErrorWithin bound (regulated distances).previousError :=
  errorWithin_foldl within ⟨by simp, .inl (le_refl 0)⟩

/-- Up to 1526 mm no command is out of the range of `int16_t`. -/
theorem command_bounds
    {bound : Nat}
    {distance : UInt16}
    {state : PidState}
    (small : bound ≤ 1526)
    (previous : ErrorWithin bound state.previousError)
    (within : distance.toNat ≤ bound) :
    -2 ^ 15 ≤ command distance state ∧
      command distance state ≤ 2 ^ 15 - 1 := by
  have bounded : (bound : ℚ) ≤ 1526 := by exact_mod_cast small
  have clamped :=
    clampSumError_bounds (state.sumError + errorOf distance)
  obtain ⟨above, below⟩ := errorWithin_errorOf within
  obtain ⟨previousAbove, previousBelow⟩ := previous
  rw [command_eq]
  constructor
  · rcases previousBelow with low | low <;> linarith
  · rcases below with low | low <;> linarith

/-- From next to the robot to 1527 mm in one call. -/
theorem command_of_jump :
    command 1527 (regulated [0]) = 327778 / 10 := by
  decide +kernel

/--
For every bound on the distances: in all runs within it, from the initial
state, every command survives its conversion, exactly when the bound is at
most 1526 mm.
-/
theorem survives_iff_bound_le
    (bound : Nat) :
    (∀ distances : List UInt16,
        (∀ distance ∈ distances, distance.toNat ≤ bound) →
        ∀ distance : UInt16,
          distance.toNat ≤ bound →
          Regulates distance →
          Survives distance (regulated distances)) ↔
      bound ≤ 1526 := by
  constructor
  · intro survive
    by_contra large
    have jump :=
      survive [0] (by simp) 1527
        (Nat.le_of_not_lt fun small => large (Nat.le_of_lt_succ small))
        (by decide +kernel)
    have inRange := jump.inRange.2
    rw [command_of_jump] at inRange
    norm_num at inRange
  · intro small distances within distance bounded regulates
    exact survives_of_inRange regulates
      (command_bounds small (errorWithin_regulated within) bounded)

/-- At 2000 mm the first command of a pursuit is reversed. -/
theorem command_reversed :
    ¬ ∀ distances distance,
      Regulates distance → Survives distance (regulated distances) := by
  intro survive
  have reversed :
      (pidRegulator id 2000 goalDist (regulated [])).1 = -22706 := by
    decide +kernel
  have forwards := (survive [] 2000 (by decide +kernel)).forwards
  rw [reversed] at forwards
  exact absurd (forwards (by decide +kernel)) (by decide)

end EPuckTavern.PidDistance
