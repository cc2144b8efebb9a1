import Mathlib.Algebra.Order.Ring.Rat
import Mathlib.Algebra.Order.Group.Abs
import EPuckTavern.Worker
import EPuckTavern.Platform
import EPuckTavern.Data.RingBuffer

namespace EPuckTavern.PidDistance

open Data

/-!
# The pursuit `PidRegulator`

The worker filters the distance over the last ten readings, lets a PID
regulator turn it into one speed for both motors, and declares the pursuit
done once the elapsed time since `stable_time` passes `STABLE_DURATION` while
the speed is 0.

Everything the regulator remembers is a function static, so it outlives the
thread: `Memory`.  Floating-point results pass through `round`, a parameter:
`id` gives exact rationals, and the results below hold for any rounding.
-/

/-- `GOAL_DIST` [mm]. -/
def goalDist : ℚ := 50

/-- `ERROR_THRESHOLD` [mm]. -/
def errorThreshold : ℚ := 20

/-- `KP` -/
def kp : ℚ := 20

/-- `KI` -/
def ki : ℚ := 14 / 10

/-- `KD` -/
def kd : ℚ := 14 / 10

/-- `MOTOR_SPEED_LIMIT` [step/s]. -/
def motorSpeedLimit : ℚ := 1100

/-- `NB_SAMPLES` -/
def nbSamples : Nat := 10

/-- `STABLE_DURATION` [s]. -/
def stableDuration : UInt32 := 3

/-- `SPEED_ANIMATION1` [step/s]. -/
def speedAnimation1 : Int := 700

/-- `SPEED_ANIMATION2` [step/s]. -/
def speedAnimation2 : Int := 250

/-- `previous_distance` with `circular_buffer`. -/
abbrev DistanceWindow := RingBuffer UInt16 nbSamples

/-- The function statics of `pid_regulator`. -/
structure PidState where
  sumError : ℚ
  previousError : ℚ
  deriving DecidableEq

/-- All function statics behind a pursuit. -/
structure Memory where
  window : DistanceWindow
  pid : PidState
  stableTime : Systime
  deriving DecidableEq

/-- The static variables when the robot starts. -/
def Memory.initial : Memory where
  window := .fill 0 (by decide)
  pid := ⟨0, 0⟩
  stableTime := 0

/-- The loop of `get_mean_distance_mm`: a `uint16_t` accumulator over 10. -/
def meanOf (window : DistanceWindow) : UInt16 :=
  window.cells.foldl (· + ·) 0 / 10

/-- `get_mean_distance_mm`, with the reading of `VL53L0X_get_dist_mm()`. -/
def getMeanDistanceMm
    (window : DistanceWindow)
    (distMm : UInt16) : UInt16 × DistanceWindow :=
  (meanOf (window.push distMm), window.push distMm)

/-- `MAX_SUM_ERROR` -/
def maxSumError (round : ℚ → ℚ) : ℚ :=
  round (motorSpeedLimit / round ki)

/-- The two tests that keep `sum_error` within `MAX_SUM_ERROR`. -/
def clampSumError (round : ℚ → ℚ) (sumError : ℚ) : ℚ :=
  if sumError > maxSumError round then
    maxSumError round
  else if sumError < -maxSumError round then
    -maxSumError round
  else
    sumError

/-- The control law, before its conversion to `int16_t`. -/
def controlSpeed
    (round : ℚ → ℚ)
    (error sumError previousError : ℚ) : ℚ :=
  round
    (round (round (kp * error) + round (round ki * sumError)) +
      round (round kd * round (error - previousError)))

/-- `pid_regulator`, each float operation rounded. -/
def pidRegulator
    (round : ℚ → ℚ)
    (distance : UInt16)
    (goal : ℚ)
    (state : PidState) : Int × PidState :=
  let error := round ((distance.toNat : ℚ) - goal)
  if |error| < errorThreshold then
    (0, state)
  else
    let sumError := clampSumError round (round (state.sumError + error))
    (toInt16 (truncate
        (controlSpeed round error sumError state.previousError)),
      ⟨sumError, error⟩)

/-- `speed = pid_regulator(get_mean_distance_mm(), GOAL_DIST)`. -/
def computeSpeed
    (round : ℚ → ℚ)
    (distMm : UInt16)
    (memory : Memory) : Int × Memory :=
  let (mean, window) := getMeanDistanceMm memory.window distMm
  let (speed, pid) := pidRegulator round mean goalDist memory.pid
  (speed, { memory with window := window, pid := pid })

/-- `if(!stable_time) stable_time = chVTGetSystemTime();` -/
def initStableTime (now : Systime) (memory : Memory) : Memory :=
  if memory.stableTime = 0 then
    { memory with stableTime := now }
  else
    memory

/-- `(chVTGetSystemTime() - stable_time) > S2ST(STABLE_DURATION)`. -/
def stableFor (now stableTime : Systime) : Bool :=
  now - stableTime > s2st stableDuration

/-- Control points of `PidRegulator`. -/
inductive Pc where
  | testMustStop
  | stopRight
  | stopLeft
  | clearMustStop
  | clearExistStopped
  | exitStopped
  | testStableTime
  | compute
  | setRight
  | setLeft
  | testSpeed
  | setDone
  | firstSwingRight
  | firstSwingLeft
  | sleepFirstSwing
  | secondSwingRight
  | secondSwingLeft
  | sleepSecondSwing
  | endSwingRight
  | endSwingLeft
  | clearExistDone
  | exitDone
  | sleepUntil
  | exited (exit : Exit)
  deriving Repr, DecidableEq

/-- A `PidRegulator` thread and its local variable `speed`. -/
structure Local where
  pc : Pc
  speed : Int
  deriving Repr, DecidableEq

/-- What the thread reads from outside: the clock and the distance. -/
structure Input where
  now : Systime
  distMm : UInt16
  deriving Repr, DecidableEq

/-- The thread before its first statement. -/
def entry : Local where
  pc := .testMustStop
  speed := 0

/-- Control flow and effect on the statics of one statement. -/
def next
    (round : ℚ → ℚ)
    (input : Input)
    (mustStop : Bool)
    (thread : Local)
    (memory : Memory) : Local × Memory :=
  match thread.pc with
  | .testMustStop =>
      if mustStop then
        ({ thread with pc := .stopRight }, memory)
      else
        ({ thread with pc := .testStableTime }, memory)
  | .stopRight => ({ thread with pc := .stopLeft }, memory)
  | .stopLeft => ({ thread with pc := .clearMustStop }, memory)
  | .clearMustStop => ({ thread with pc := .clearExistStopped }, memory)
  | .clearExistStopped => ({ thread with pc := .exitStopped }, memory)
  | .exitStopped => ({ thread with pc := .exited .stopped }, memory)
  | .testStableTime =>
      ({ thread with pc := .compute }, initStableTime input.now memory)
  | .compute =>
      let (speed, computed) := computeSpeed round input.distMm memory
      (⟨.setRight, speed⟩, computed)
  | .setRight => ({ thread with pc := .setLeft }, memory)
  | .setLeft => ({ thread with pc := .testSpeed }, memory)
  | .testSpeed =>
      if thread.speed = 0 then
        if stableFor input.now memory.stableTime then
          ({ thread with pc := .setDone }, memory)
        else
          ({ thread with pc := .sleepUntil }, memory)
      else
        ({ thread with pc := .sleepUntil },
          { memory with stableTime := input.now })
  | .setDone => ({ thread with pc := .firstSwingRight }, memory)
  | .firstSwingRight => ({ thread with pc := .firstSwingLeft }, memory)
  | .firstSwingLeft => ({ thread with pc := .sleepFirstSwing }, memory)
  | .sleepFirstSwing => ({ thread with pc := .secondSwingRight }, memory)
  | .secondSwingRight => ({ thread with pc := .secondSwingLeft }, memory)
  | .secondSwingLeft => ({ thread with pc := .sleepSecondSwing }, memory)
  | .sleepSecondSwing => ({ thread with pc := .endSwingRight }, memory)
  | .endSwingRight => ({ thread with pc := .endSwingLeft }, memory)
  | .endSwingLeft => ({ thread with pc := .clearExistDone }, memory)
  | .clearExistDone => ({ thread with pc := .exitDone }, memory)
  | .exitDone => ({ thread with pc := .exited .completed }, memory)
  | .sleepUntil => ({ thread with pc := .testMustStop }, memory)
  | .exited _ => (thread, memory)

/-- The stores of `PidRegulator` to the flags of its file. -/
def store (flags : WorkerFlags) : Pc → WorkerFlags
  | .clearMustStop => { flags with mustStop := false }
  | .clearExistStopped => { flags with thdExist := false }
  | .setDone => { flags with done := true }
  | .clearExistDone => { flags with thdExist := false }
  | _ => flags

/-- The motor command of a statement; the swings are `animation`. -/
def command? (thread : Local) : Option MotorCommand :=
  match thread.pc with
  | .stopRight => some (rightMotorSetSpeed speedStop)
  | .stopLeft => some (leftMotorSetSpeed speedStop)
  | .setRight => some (rightMotorSetSpeed thread.speed)
  | .setLeft => some (leftMotorSetSpeed thread.speed)
  | .firstSwingRight => some (rightMotorSetSpeed speedAnimation1)
  | .firstSwingLeft => some (leftMotorSetSpeed (-speedAnimation1))
  | .secondSwingRight => some (rightMotorSetSpeed (-speedAnimation2))
  | .secondSwingLeft => some (leftMotorSetSpeed speedAnimation2)
  | .endSwingRight => some (rightMotorSetSpeed speedStop)
  | .endSwingLeft => some (leftMotorSetSpeed speedStop)
  | _ => none

/-- How far the thread is on its way out. -/
def stage : Pc → Stage
  | .stopRight | .stopLeft | .clearMustStop | .clearExistStopped =>
      .leaving .stopped
  | .exitStopped => .cleared .stopped
  | .setDone | .firstSwingRight | .firstSwingLeft | .sleepFirstSwing
  | .secondSwingRight | .secondSwingLeft | .sleepSecondSwing
  | .endSwingRight | .endSwingLeft | .clearExistDone =>
      .leaving .completed
  | .exitDone => .cleared .completed
  | .exited exit => .exited exit
  | _ => .running

/-- `pid_distance_start`: its flag stores, in their order. -/
def pidDistanceStart : List FlagStore :=
  [.mustStop, .done, .thdExist]

theorem moves
    (round : ℚ → ℚ)
    (input : Input)
    (thread : Local)
    (memory : Memory)
    (flags : WorkerFlags)
    (present : (stage thread.pc).hasExited = false) :
    (stage thread.pc).Moves flags
      (stage (next round input flags.mustStop thread memory).1.pc)
      (store flags thread.pc) := by
  obtain ⟨pc, speed⟩ := thread
  cases pc with
  | testMustStop =>
      cases requested : flags.mustStop <;>
        simp [next, stage, store, Stage.Moves, requested]
  | testSpeed =>
      simp only [next]
      split
      · split <;> simp [stage, store, Stage.Moves]
      · simp [stage, store, Stage.Moves]
  | exited exit =>
      cases present
  | clearExistStopped | clearExistDone =>
      exact ⟨rfl, rfl⟩
  | _ =>
      simp [next, stage, store, Stage.Moves]

/-- `PidRegulator` as a worker, its statics kept from one thread to the next. -/
def program (round : ℚ → ℚ) : WorkerProgram where
  Local := Local
  Statics := Memory
  Input := Input
  entry := entry
  step input thread memory flags :=
    let result := next round input flags.mustStop thread memory
    (result.1, result.2, store flags thread.pc)
  stage thread := stage thread.pc
  startStores := pidDistanceStart
  entryRunning := rfl
  moves input thread memory flags present :=
    moves round input thread memory flags present
  storesExist := by decide
  storesStop := by decide

end EPuckTavern.PidDistance
