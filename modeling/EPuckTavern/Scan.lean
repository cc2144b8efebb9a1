import EPuckTavern.Worker
import EPuckTavern.Platform

namespace EPuckTavern

/-!
# The object scanner `Scan`

The worker rotates until the time-of-flight sensor reports an object in
range, drives up to it, has the camera look at it for `TIME_TO_SCAN`, and
either reports success or drives back and turns away.  Each reading of the
distance is a step of its own, because the sensor thread can update the value
between any two of them.
-/

/-- `couleur` of `scan.h`. -/
inductive Couleur where
  | autre
  | rouge
  | bleu
  | noir
  deriving Repr, DecidableEq

/-- `NSTEP_ONE_TURN` -/
def nstepOneTurn : Int := 1000

/-- `PERIMETER_EPUCK * CM_TO_MM` [mm], with `PI` and `WHEEL_DISTANCE`. -/
def perimeterEpuckMm : ℚ :=
  (31415926536 / 10000000000) * (535 / 100) * 10

/-- `SPEED_APPROACH` [step/s]. -/
def speedApproach : Int := 600

/-- `SCAN_DIST` [mm]. -/
def scanDist : Int := 200

/-- `MAX_SCAN_DIST` [mm]. -/
def maxScanDist : Int := 400

/-- `MIN_SCAN_DIST` [mm]. -/
def minScanDist : Int := 50

/-- `ROTATION_SPEED` [step/s]. -/
def rotationSpeed : Int := 200

namespace DistanceApproach

/-- `step_approach`: the distance [mm] in steps, as an `int16_t`. -/
def stepApproach (distApproach : Int) : Int :=
  toInt16 (truncate ((distApproach * nstepOneTurn : Int) / perimeterEpuckMm))

/-- `time_approach` [ms]; the division is one of integers. -/
def timeApproach (distApproach : Int) : Int :=
  (1000 * (stepApproach distApproach).natAbs : Int) / speedApproach

/-- The speed that `distance_approach` sets on both motors. -/
def speed (distApproach : Int) : Int :=
  if distApproach ≥ 0 then speedApproach else -speedApproach

/-- Control points of `distance_approach`. -/
inductive Pc where
  | driveLeft
  | driveRight
  | sleep
  | stopLeft
  | stopRight
  deriving Repr, DecidableEq

/-- The next statement; `none` when the function returns. -/
def next? (distApproach : Int) : Pc → Option Pc
  | .driveLeft => some .driveRight
  | .driveRight =>
      if timeApproach distApproach ≠ 0 then some .sleep else some .stopLeft
  | .sleep => some .stopLeft
  | .stopLeft => some .stopRight
  | .stopRight => none

/-- The motor command of a statement. -/
def command? (distApproach : Int) : Pc → Option MotorCommand
  | .driveLeft => some (leftMotorSetSpeed (speed distApproach))
  | .driveRight => some (rightMotorSetSpeed (speed distApproach))
  | .sleep => none
  | .stopLeft => some (leftMotorSetSpeed speedStop)
  | .stopRight => some (rightMotorSetSpeed speedStop)

end DistanceApproach

namespace ColorScan

/-- Control points of `color_scan`: it reads the flags up to four times. -/
inductive Pc where
  | firstRed
  | firstBlue
  | secondRed
  | secondBlue
  | returned (color : Couleur)
  deriving Repr, DecidableEq

/-- One read of a flag, with the short-circuit order of the conditions. -/
def step (lineRed lineBlue : Bool) : Pc → Pc
  | .firstRed => if lineRed then .firstBlue else .secondRed
  | .firstBlue => if lineBlue then .returned .noir else .secondRed
  | .secondRed => if !lineRed then .secondBlue else .returned .autre
  | .secondBlue => if lineBlue then .returned .rouge else .returned .autre
  | .returned color => .returned color

end ColorScan

namespace Scan

/-- The two calls of `distance_approach` in `Scan`. -/
inductive Leg where
  | approach
  | retreat
  deriving Repr, DecidableEq

/-- Control points of `Scan`. -/
inductive Pc where
  | testMustStop
  | stopLeft
  | stopRight
  | clearMustStop
  | clearExistStopped
  | exitStopped
  | testMax
  | testMin
  | readDist
  | drive (leg : Leg) (point : DistanceApproach.Pc)
  | resumeImage
  | sleepScan
  | colorScan (point : ColorScan.Pc)
  | pauseImage
  | testColor
  | setGoodColor
  | clearExistFound
  | exitFound
  | clearGoodColor
  | turnLeft
  | turnRight
  | spin
  | searchLeft
  | searchRight
  | sleepUntil
  | exited (exit : Exit)
  deriving Repr, DecidableEq

/-- A `Scan` thread and its local variables. -/
structure Local where
  pc : Pc
  distApproach : Int
  colorScanned : Couleur
  deriving Repr, DecidableEq

/-- What a step can read from outside. -/
structure Input where
  distMm : UInt16
  lineRed : Bool
  lineBlue : Bool
  /-- `color_mode`, which main sets through `set_color_mode`. -/
  colorMode : Couleur
  deriving Repr, DecidableEq

/-- The thread before its first statement. -/
def entry : Local where
  pc := .testMustStop
  distApproach := 0
  colorScanned := .autre

/-- `VL53L0X_get_dist_mm() < MAX_SCAN_DIST`. -/
def belowMax (distMm : UInt16) : Bool :=
  decide ((distMm.toNat : Int) < maxScanDist)

/-- `VL53L0X_get_dist_mm() > MIN_SCAN_DIST`. -/
def aboveMin (distMm : UInt16) : Bool :=
  decide ((distMm.toNat : Int) > minScanDist)

/-- The argument of a call of `distance_approach`, an `int16_t`. -/
def Leg.distance (distApproach : Int) : Leg → Int
  | .approach => distApproach
  | .retreat => toInt16 (-distApproach)

/-- Where `Scan` goes on after a call of `distance_approach`. -/
def Leg.after : Leg → Pc
  | .approach => .resumeImage
  | .retreat => .turnLeft

/-- The test of `color_mode` against the colour that was scanned. -/
def colorFound (colorMode colorScanned : Couleur) : Bool :=
  (colorMode = .rouge && colorScanned = .rouge) ||
    (colorMode = .noir && colorScanned = .noir)

/-- The control flow of `Scan`, and what it leaves in its locals. -/
def next (input : Input) (mustStop : Bool) (thread : Local) : Local :=
  match thread.pc with
  | .testMustStop =>
      if mustStop then
        { thread with pc := .stopLeft }
      else
        { thread with
          pc := .testMax, distApproach := 0, colorScanned := .autre }
  | .stopLeft => { thread with pc := .stopRight }
  | .stopRight => { thread with pc := .clearMustStop }
  | .clearMustStop => { thread with pc := .clearExistStopped }
  | .clearExistStopped => { thread with pc := .exitStopped }
  | .exitStopped => { thread with pc := .exited .stopped }
  | .testMax =>
      if belowMax input.distMm then
        { thread with pc := .testMin }
      else
        { thread with pc := .searchLeft }
  | .testMin =>
      if aboveMin input.distMm then
        { thread with pc := .readDist }
      else
        { thread with pc := .searchLeft }
  | .readDist =>
      { thread with
        pc := .drive .approach .driveLeft
        distApproach := toInt16 (input.distMm.toNat - scanDist) }
  | .drive leg point =>
      match DistanceApproach.next? (leg.distance thread.distApproach) point with
      | some following => { thread with pc := .drive leg following }
      | none => { thread with pc := leg.after }
  | .resumeImage => { thread with pc := .sleepScan }
  | .sleepScan => { thread with pc := .colorScan .firstRed }
  | .colorScan point =>
      match ColorScan.step input.lineRed input.lineBlue point with
      | .returned color =>
          { thread with pc := .pauseImage, colorScanned := color }
      | following => { thread with pc := .colorScan following }
  | .pauseImage => { thread with pc := .testColor }
  | .testColor =>
      if colorFound input.colorMode thread.colorScanned then
        { thread with pc := .setGoodColor }
      else
        { thread with pc := .clearGoodColor }
  | .setGoodColor => { thread with pc := .clearExistFound }
  | .clearExistFound => { thread with pc := .exitFound }
  | .exitFound => { thread with pc := .exited .completed }
  | .clearGoodColor => { thread with pc := .drive .retreat .driveLeft }
  | .turnLeft => { thread with pc := .turnRight }
  | .turnRight => { thread with pc := .spin }
  | .spin =>
      if belowMax input.distMm then
        thread
      else
        { thread with pc := .sleepUntil }
  | .searchLeft => { thread with pc := .searchRight }
  | .searchRight => { thread with pc := .sleepUntil }
  | .sleepUntil => { thread with pc := .testMustStop }
  | .exited _ => thread

/-- The stores of `Scan` to the flags of its file. -/
def store (flags : WorkerFlags) : Pc → WorkerFlags
  | .clearMustStop => { flags with mustStop := false }
  | .clearExistStopped => { flags with thdExist := false }
  | .setGoodColor => { flags with done := true }
  | .clearExistFound => { flags with thdExist := false }
  | .clearGoodColor => { flags with done := false }
  | _ => flags

/-- The motor command of a statement. -/
def command? (thread : Local) : Option MotorCommand :=
  match thread.pc with
  | .stopLeft => some (leftMotorSetSpeed speedStop)
  | .stopRight => some (rightMotorSetSpeed speedStop)
  | .drive leg point =>
      DistanceApproach.command? (leg.distance thread.distApproach) point
  | .turnLeft => some (leftMotorSetSpeed rotationSpeed)
  | .turnRight => some (rightMotorSetSpeed (-rotationSpeed))
  | .searchLeft => some (leftMotorSetSpeed rotationSpeed)
  | .searchRight => some (rightMotorSetSpeed (-rotationSpeed))
  | _ => none

/-- Where a control point lies in the life cycle. -/
def stage : Pc → Stage
  | .stopLeft | .stopRight | .clearMustStop | .clearExistStopped =>
      .leaving .stopped
  | .exitStopped => .cleared .stopped
  | .setGoodColor | .clearExistFound => .leaving .completed
  | .exitFound => .cleared .completed
  | .exited exit => .exited exit
  | _ => .running

/-- `scan_start`: its flag stores, in their order. -/
def scanStart : List FlagStore :=
  [.thdExist, .done, .mustStop]

/-- Every statement of `Scan` is a move of the life cycle. -/
theorem moves
    (input : Input)
    (thread : Local)
    (flags : WorkerFlags)
    (present : (stage thread.pc).hasExited = false) :
    (stage thread.pc).Moves flags
      (stage (next input flags.mustStop thread).pc)
      (store flags thread.pc) := by
  obtain ⟨pc, distApproach, colorScanned⟩ := thread
  cases pc with
  | testMustStop =>
      cases requested : flags.mustStop <;>
        simp [next, stage, store, Stage.Moves, requested]
  | testMax | spin =>
      cases inRange : belowMax input.distMm <;>
        simp [next, inRange, stage, store, Stage.Moves]
  | testMin =>
      cases inRange : aboveMin input.distMm <;>
        simp [next, inRange, stage, store, Stage.Moves]
  | testColor =>
      cases found : colorFound input.colorMode colorScanned <;>
        simp [next, found, stage, store, Stage.Moves]
  | drive leg point =>
      simp only [next]
      split
      · simp [stage, store, Stage.Moves]
      · cases leg <;> simp [Leg.after, stage, store, Stage.Moves]
  | colorScan point =>
      simp only [next]
      split <;> simp [stage, store, Stage.Moves]
  | exited exit =>
      cases present
  | clearExistStopped | clearExistFound =>
      exact ⟨rfl, rfl⟩
  | _ =>
      simp [next, stage, store, Stage.Moves]

/-- `Scan` as a worker. -/
def program : WorkerProgram where
  Local := Local
  Statics := Unit
  Input := Input
  entry := entry
  step input thread _ flags :=
    (next input flags.mustStop thread, (), store flags thread.pc)
  stage thread := stage thread.pc
  startStores := scanStart
  entryRunning := rfl
  moves input thread _ flags present := moves input thread flags present
  storesExist := by decide
  storesStop := by decide

end Scan

end EPuckTavern
