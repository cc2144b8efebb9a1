import EPuckTavern.PidNarrowing
import EPuckTavern.Data.ClampedSum

namespace EPuckTavern.PidDistance

open Data

/-!
# The wind-up of the integral part

The accumulated error of an approach is clamped to what the motors can do, no
lower, so it can outweigh the error at hand: a target that is too close may
still attract the robot.  Each call of such a target takes its error off the
accumulated one, and after 24 of them nothing is left to push the robot on.
Under a constant distance the accumulated error loses its way back from one
limit at the full rate of the error, and 26 calls are enough for every
distance outside of the dead zone.
-/

/-- The two tests of the code clamp the sum. -/
theorem clampSumError_eq_clamp (sumError : ℚ) :
    clampSumError id sumError = clamp (maxSumError id) sumError := by
  have nonnegative := maxSumError_nonneg
  simp only [clampSumError, clamp]
  split
  · rename_i above
    rw [min_eq_right above.le, max_eq_right (neg_le_self nonnegative)]
  · rename_i notAbove
    rw [min_eq_left (not_lt.mp notAbove)]
    split
    · rename_i below
      rw [max_eq_left below.le]
    · rename_i notBelow
      rw [max_eq_right (not_lt.mp notBelow)]

/-- The sum that every call leaves behind. -/
def Clamped (state : PidState) : Prop :=
  -maxSumError id ≤ state.sumError ∧ state.sumError ≤ maxSumError id

/-- A call leaves the sum within its limit. -/
theorem clamped_step
    {state : PidState}
    (clamped : Clamped state)
    (distance : UInt16) :
    Clamped (pidRegulator id distance goalDist state).2 := by
  by_cases regulates : Regulates distance
  · rw [pidRegulator_eq regulates, Clamped, clampSumError_eq_clamp]
    exact ⟨neg_le_clamp _ _, clamp_le maxSumError_nonneg _⟩
  · rw [pidRegulator_deadZone regulates]
    exact clamped

/-- The sum is within its limit after any calls. -/
theorem clamped_regulated (distances : List UInt16) :
    Clamped (regulated distances) := by
  have initially : Clamped ⟨0, 0⟩ :=
    ⟨neg_nonpos.mpr maxSumError_nonneg, maxSumError_nonneg⟩
  exact List.foldlRecOn distances _ initially
    fun _ clamped distance _ => clamped_step clamped distance

/-- What decides the sign of a speed is the command. -/
theorem speed_pos_iff
    {distance : UInt16}
    {state : PidState}
    (survives : Survives distance state) :
    0 < (pidRegulator id distance goalDist state).1 ↔
      1 ≤ command distance state := by
  have below := @truncate_lt_iff (command distance state) 1 Int.one_pos
  rw [Int.cast_one] at below
  rw [survives.returned, ← not_lt, ← below]
  omega

/-- The robot backs off if the command reaches -1. -/
theorem speed_neg_iff
    {distance : UInt16}
    {state : PidState}
    (survives : Survives distance state) :
    (pidRegulator id distance goalDist state).1 < 0 ↔
      command distance state ≤ -1 := by
  have above := @lt_truncate_iff (command distance state) 1 Int.one_pos
  rw [Int.cast_one] at above
  rw [survives.returned, ← not_lt, ← above]
  omega

section TooClose

variable {distances : List UInt16} {distance : UInt16}

/-- A target that is too close is outside the dead band. -/
theorem regulates_tooClose
    (tooClose : errorOf distance ≤ -errorThreshold) :
    Regulates distance := by
  have threshold : errorThreshold = 20 := rfl
  rw [Regulates, abs_of_nonpos (by linarith)]
  linarith

/-- Up to a metre away, the command of a close target fits. -/
theorem survives_tooClose
    (within : ∀ earlier ∈ distances, earlier.toNat ≤ 1000)
    (tooClose : errorOf distance ≤ -errorThreshold) :
    Survives distance (regulated distances) := by
  have threshold : errorThreshold = 20 := rfl
  have near : distance.toNat ≤ 1000 := by
    have bounded : (distance.toNat : ℚ) ≤ 1000 := by
      simp only [errorOf, goalDist] at tooClose
      linarith
    exact_mod_cast bounded
  exact survives_of_inRange (regulates_tooClose tooClose)
    (command_bounds (by decide) (errorWithin_regulated within) near)

/-- The calls, among these, of a target that is too close. -/
def closeCalls (distances : List UInt16) : Nat :=
  distances.countP fun distance => errorOf distance ≤ -errorThreshold

/-- What is left of the accumulated error after some calls too close. -/
def Spent (calls : Nat) (state : PidState) : Prop :=
  state.sumError ≤ maxSumError id - 20 * calls ∧
    (0 < calls →
      state.sumError - state.previousError ≤
        maxSumError id - 20 * (calls - 1))

/-- No target is closer than 0 mm. -/
theorem errorOf_lower (distance : UInt16) :
    -50 ≤ errorOf distance := by
  have nonnegative : (0 : ℚ) ≤ distance.toNat := Nat.cast_nonneg _
  simp only [errorOf, goalDist]
  linarith

/-- A call too close takes at least 20 off, down to the lower clamp. -/
theorem spent_tooClose
    {calls : Nat}
    {state : PidState}
    (tooClose : errorOf distance ≤ -errorThreshold)
    (few : calls ≤ 23)
    (spent : Spent calls state) :
    Spent (calls + 1) (pidRegulator id distance goalDist state).2 := by
  have threshold : errorThreshold = 20 := rfl
  have limit := ki_mul_maxSumError
  have lower := errorOf_lower distance
  have bound : (calls : ℚ) ≤ 23 := by exact_mod_cast few
  have above := spent.1
  rw [pidRegulator_eq (regulates_tooClose tooClose)]
  simp only [Spent, clampSumError, Nat.cast_add, Nat.cast_one]
  split
  · constructor
    · linarith
    · intro _
      linarith
  · split
    · constructor
      · linarith
      · intro _
        linarith
    · constructor
      · linarith
      · intro _
        linarith

theorem Spent.mono
    {fewer calls : Nat}
    {state : PidState}
    (spent : Spent calls state)
    (ordered : fewer ≤ calls) :
    Spent fewer state := by
  have bound : (fewer : ℚ) ≤ calls := by exact_mod_cast ordered
  obtain ⟨above, last⟩ := spent
  refine ⟨by linarith, fun some => ?_⟩
  have change := last (some.trans_le ordered)
  linarith

/--
Run lemma: after any calls, and then some of which none is too far, the calls
too close are spent, the first 24 of them at least.
-/
theorem spent_regulated
    (distances : List UInt16)
    {near : List UInt16}
    (notFar : ∀ distance ∈ near, errorOf distance < errorThreshold) :
    Spent (min (closeCalls near) 24) (regulated (distances ++ near)) := by
  induction near using List.reverseRecOn with
  | nil =>
      rw [List.append_nil]
      refine ⟨?_, nofun⟩
      have upper := (clamped_regulated distances).2
      simpa [closeCalls] using upper
  | append_singleton near distance inductionHypothesis =>
      have spent :=
        inductionHypothesis fun earlier member =>
          notFar earlier (List.mem_append_left _ member)
      rw [regulated, ← List.append_assoc, List.foldl_append, ← regulated]
      by_cases tooClose : errorOf distance ≤ -errorThreshold
      · have counted :
            closeCalls (near ++ [distance]) = closeCalls near + 1 := by
          simp [closeCalls, List.countP_append, tooClose]
        have fewer : Spent (min (closeCalls near) 23) _ :=
          spent.mono (by omega)
        rw [counted]
        exact (spent_tooClose tooClose (Nat.min_le_right _ _) fewer).mono
          (by omega)
      · have counted :
            closeCalls (near ++ [distance]) = closeCalls near := by
          simp [closeCalls, List.countP_append, tooClose]
        have still : ¬ Regulates distance := by
          have upper := notFar distance (by simp)
          rw [Regulates, not_le, abs_lt]
          exact ⟨not_le.mp tooClose, upper⟩
        rw [counted]
        simpa [pidRegulator_deadZone still] using spent

/-- With 24 calls too close spent, the error at hand wins. -/
theorem command_nonpos_of_spent
    {state : PidState}
    (tooClose : errorOf distance ≤ -errorThreshold)
    (previous : ErrorWithin 1000 state.previousError)
    (spent : Spent 24 state) :
    command distance state ≤ 0 := by
  have threshold : errorThreshold = 20 := rfl
  have limit := ki_mul_maxSumError
  have last := previous.1
  have change :
      state.sumError - state.previousError ≤ maxSumError id - 460 := by
    have atEnd := spent.2 (by decide)
    norm_num at atEnd
    linarith
  rw [command_eq, clampSumError]
  split
  · linarith
  · split
    · -- At the lower clamp the error at hand has long won.
      linarith
    · linarith

/--
For every run of calls with distances up to 1000 mm, followed by calls of
which none is too far: from the 25th call of a target too close on, the
regulator does not push the robot towards it.
-/
theorem speed_nonpos_of_closeCalls
    {near : List UInt16}
    (within : ∀ earlier ∈ distances, earlier.toNat ≤ 1000)
    (notFar : ∀ later ∈ near, errorOf later < errorThreshold)
    (enough : 24 ≤ closeCalls near)
    (tooClose : errorOf distance ≤ -errorThreshold) :
    (pidRegulator id distance goalDist
      (regulated (distances ++ near))).1 ≤ 0 := by
  have allWithin :
      ∀ earlier ∈ distances ++ near, earlier.toNat ≤ 1000 := by
    intro earlier member
    rcases List.mem_append.mp member with before | later
    · exact within earlier before
    · have bounded : (earlier.toNat : ℚ) ≤ 1000 := by
        have below := notFar earlier later
        have threshold : errorThreshold = 20 := rfl
        simp only [errorOf, goalDist] at below
        linarith
      exact_mod_cast bounded
  have spent := spent_regulated distances notFar
  rw [Nat.min_eq_right enough] at spent
  have nonpos :=
    command_nonpos_of_spent tooClose (errorWithin_regulated allWithin) spent
  rw [← not_lt, speed_pos_iff (survives_tooClose allWithin tooClose)]
  linarith

/-- An approach from a metre away, with its last samples still far. -/
def windUp : List UInt16 :=
  [1000, 70]

/-- The distances of the history are at most 1000. -/
theorem windUp_within :
    ∀ earlier ∈ windUp, earlier.toNat ≤ 1000 := by
  simp [windUp]

/-- None of those that follow it is too far. -/
theorem windUp_notFar
    (calls : Nat) :
    ∀ later ∈ 50 :: List.replicate calls 30,
      errorOf later < errorThreshold := by
  intro later member
  rcases List.mem_cons.mp member with rfl | repeated
  · decide +kernel
  · rw [List.eq_of_mem_replicate repeated]
    decide +kernel

/--
The bound is tight: at 30 mm the 24th call still pushes the robot on, with one
call in the dead zone in between, and the 25th does not.
-/
theorem windUp_pushes_on :
    0 < (pidRegulator id 30 goalDist
      (regulated (windUp ++ (50 :: List.replicate 23 30)))).1 ∧
    (pidRegulator id 30 goalDist
      (regulated (windUp ++ (50 :: List.replicate 24 30)))).1 ≤ 0 :=
  ⟨by decide +kernel,
    speed_nonpos_of_closeCalls windUp_within (windUp_notFar 24)
      (by decide +kernel) (by decide +kernel)⟩

/-- At 30 mm the robot is driven on towards its target. -/
theorem pushed_too_close :
    ¬ ∀ distances distance,
      (∀ earlier ∈ distances, UInt16.toNat earlier ≤ 1000) →
      errorOf distance ≤ -errorThreshold →
      (pidRegulator id distance goalDist (regulated distances)).1 ≤ 0 := by
  intro backwards
  have speed :
      (pidRegulator id 30 goalDist (regulated windUp)).1 = 616 := by
    decide +kernel
  have notForwards :=
    backwards windUp 30 windUp_within (by decide +kernel)
  rw [speed] at notForwards
  exact absurd notForwards (by decide)

end TooClose

section Constant

variable {distance : UInt16} {calls : Nat}

/-- The speed is not 0 and has the sign of `d - GOAL_DIST`. -/
def Follows (distance : UInt16) (speed : Int) : Prop :=
  (0 < errorOf distance ∧ 0 < speed) ∨
    (errorOf distance < 0 ∧ speed < 0)

/-- After calls with one distance the last error is that of the distance. -/
theorem regulated_constant
    (regulates : Regulates distance)
    (distances : List UInt16)
    (calls : Nat) :
    regulated (distances ++ List.replicate (calls + 1) distance) =
      ⟨clampedSum (maxSumError id) (errorOf distance) (calls + 1)
          (regulated distances).sumError,
        errorOf distance⟩ := by
  have call (state : PidState) :
      (pidRegulator id distance goalDist state).2 =
        ⟨clamp (maxSumError id) (state.sumError + errorOf distance),
          errorOf distance⟩ := by
    rw [pidRegulator_eq regulates, clampSumError_eq_clamp]
  rw [regulated, List.foldl_append, ← regulated]
  induction calls with
  | zero => exact call _
  | succ calls inductionHypothesis =>
      rw [List.replicate_succ', List.foldl_append, inductionHypothesis,
        clampedSum_succ _ _ (calls + 1)]
      exact call _

/-- The derivative part vanishes from the second call on. -/
theorem command_constant
    (regulates : Regulates distance)
    (distances : List UInt16)
    (calls : Nat) :
    command distance
        (regulated (distances ++ List.replicate (calls + 1) distance)) =
      20 * errorOf distance +
        14 / 10 *
          clampedSum (maxSumError id) (errorOf distance) (calls + 2)
            (regulated distances).sumError := by
  rw [regulated_constant regulates, command_eq, clampSumError_eq_clamp,
    ← clampedSum_succ, sub_self, mul_zero, add_zero]

/-- 26 increments of the error at hand, as far as they are needed. -/
theorem command_pos
    (far : errorThreshold ≤ errorOf distance)
    (enough : 24 ≤ calls)
    (distances : List UInt16) :
    1 ≤ command distance
      (regulated (distances ++ List.replicate (calls + 1) distance)) := by
  have threshold : errorThreshold = 20 := rfl
  have limit := ki_mul_maxSumError
  have upwards : 0 ≤ errorOf distance := by linarith
  have woundOff :=
    le_clampedSum upwards (clamped_regulated distances).1 (calls + 2)
  have increments : 26 * errorOf distance ≤ (calls + 2) • errorOf distance := by
    rw [nsmul_eq_mul]
    refine mul_le_mul_of_nonneg_right ?_ upwards
    exact_mod_cast Nat.add_le_add_right enough 2
  rw [command_constant (far.trans (le_abs_self _))]
  rcases min_le_iff.mp woundOff with below | above <;> linarith

theorem command_neg
    (near : errorOf distance ≤ -errorThreshold)
    (enough : 24 ≤ calls)
    (distances : List UInt16) :
    command distance
        (regulated (distances ++ List.replicate (calls + 1) distance)) ≤
      -1 := by
  have threshold : errorThreshold = 20 := rfl
  have limit := ki_mul_maxSumError
  have downwards : errorOf distance ≤ 0 := by linarith
  have woundOff :=
    clampedSum_le maxSumError_nonneg downwards
      (clamped_regulated distances).2 (calls + 2)
  have increments : (calls + 2) • errorOf distance ≤ 26 * errorOf distance := by
    rw [nsmul_eq_mul]
    refine mul_le_mul_of_nonpos_right ?_ downwards
    exact_mod_cast Nat.add_le_add_right enough 2
  rw [command_constant ((le_neg.mp near).trans (neg_le_abs _))]
  rcases le_max_iff.mp woundOff with above | below <;> linarith

/-- Under a constant distance up to a metre every command fits. -/
theorem survives_constant
    (inRange : distance.toNat ≤ 1000)
    (regulates : Regulates distance)
    (distances : List UInt16)
    (calls : Nat) :
    Survives distance
      (regulated (distances ++ List.replicate (calls + 1) distance)) := by
  refine survives_of_inRange regulates
    (command_bounds (by decide) ?_ inRange)
  rw [regulated_constant regulates]
  exact errorWithin_errorOf inRange

/--
From every state that the regulator can reach and for every distance up to
1000 mm outside of the dead zone: from the 26th consecutive call with that
distance on, the speed is not 0 and has the sign of the error.
-/
theorem windUp_forgotten
    (distances : List UInt16)
    (inRange : distance.toNat ≤ 1000)
    (regulates : Regulates distance)
    (enough : 25 ≤ calls) :
    Follows distance
      (pidRegulator id distance goalDist
        (regulated (distances ++ List.replicate calls distance))).1 := by
  obtain ⟨earlier, rfl⟩ : ∃ earlier, calls = earlier + 1 :=
    ⟨calls - 1, by omega⟩
  have survives := survives_constant inRange regulates distances earlier
  have late : 24 ≤ earlier := Nat.le_of_succ_le_succ enough
  have threshold : errorThreshold = 20 := rfl
  rcases le_abs'.mp regulates with near | far
  · exact .inr ⟨by linarith,
      (speed_neg_iff survives).mpr (command_neg near late distances)⟩
  · exact .inl ⟨by linarith,
      (speed_pos_iff survives).mpr (command_pos far late distances)⟩

/-- Wound up by two calls, the regulator turns back at 30 mm in time. -/
theorem windUp_forgotten_at_edge :
    Follows 30
      (pidRegulator id 30 goalDist
        (regulated (windUp ++ List.replicate 25 30))).1 :=
  windUp_forgotten windUp (by decide) (by decide +kernel) (le_refl 25)

end Constant

end EPuckTavern.PidDistance
