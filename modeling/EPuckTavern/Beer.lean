import EPuckTavern.Scan

namespace EPuckTavern.Beer

/-!
# The bar visitor `Beer`

The worker reads the distance until the bar is in range, drives up to it,
waits for `BEER_WAIT`, drives back and reports that the beer is served.  Its
`must_stop` branch leaves the motors as they are.
-/

/-- `BAR_DIST` [mm]. -/
def barDist : Int := 25

/-- Control points of `Beer`. -/
inductive Pc where
  | testMustStop
  | clearMustStop
  | clearExistStopped
  | exitStopped
  | readDist
  | testDist
  | drive (leg : Scan.Leg) (point : DistanceApproach.Pc)
  | sleepBeer
  | setBeerGotten
  | clearExistServed
  | exitServed
  | sleepUntil
  | exited (exit : Exit)
  deriving Repr, DecidableEq

/-- A `Beer` thread and its local variable `dist_approach`. -/
structure Local where
  pc : Pc
  distApproach : Int
  deriving Repr, DecidableEq

/-- What the thread reads from outside: `VL53L0X_get_dist_mm`. -/
structure Input where
  distMm : UInt16
  deriving Repr, DecidableEq

/-- The thread before its first statement. -/
def entry : Local where
  pc := .testMustStop
  distApproach := 0

/-- The statement after a call of `distance_approach`. -/
def afterDrive : Scan.Leg → Pc
  | .approach => .sleepBeer
  | .retreat => .setBeerGotten

/-- A statement of `Beer`: control point and local variable after it. -/
def next (input : Input) (mustStop : Bool) (thread : Local) : Local :=
  match thread.pc with
  | .testMustStop =>
      if mustStop then
        { thread with pc := .clearMustStop }
      else
        { thread with pc := .readDist, distApproach := 0 }
  | .clearMustStop => { thread with pc := .clearExistStopped }
  | .clearExistStopped => { thread with pc := .exitStopped }
  | .exitStopped => { thread with pc := .exited .stopped }
  | .readDist =>
      { thread with
        pc := .testDist
        distApproach := toInt16 (input.distMm.toNat - barDist) }
  | .testDist =>
      if thread.distApproach < maxScanDist &&
          thread.distApproach > minScanDist then
        { thread with pc := .drive .approach .driveLeft }
      else
        { thread with pc := .sleepUntil }
  | .drive leg point =>
      match DistanceApproach.next? (leg.distance thread.distApproach) point with
      | some following => { thread with pc := .drive leg following }
      | none => { thread with pc := afterDrive leg }
  | .sleepBeer => { thread with pc := .drive .retreat .driveLeft }
  | .setBeerGotten => { thread with pc := .clearExistServed }
  | .clearExistServed => { thread with pc := .exitServed }
  | .exitServed => { thread with pc := .exited .completed }
  | .sleepUntil => { thread with pc := .testMustStop }
  | .exited _ => thread

/-- The stores of `Beer` to the flags of its file. -/
def store (flags : WorkerFlags) : Pc → WorkerFlags
  | .clearMustStop => { flags with mustStop := false }
  | .clearExistStopped => { flags with thdExist := false }
  | .setBeerGotten => { flags with done := true }
  | .clearExistServed => { flags with thdExist := false }
  | _ => flags

/-- `Beer` drives by `distance_approach` only. -/
def command? (thread : Local) : Option MotorCommand :=
  match thread.pc with
  | .drive leg point =>
      DistanceApproach.command? (leg.distance thread.distApproach) point
  | _ => none

/-- How far the thread is on its way out. -/
def stage : Pc → Stage
  | .clearMustStop | .clearExistStopped => .leaving .stopped
  | .exitStopped => .cleared .stopped
  | .setBeerGotten | .clearExistServed => .leaving .completed
  | .exitServed => .cleared .completed
  | .exited exit => .exited exit
  | _ => .running

/-- `beer_start`, its stores in their order -/
def beerStart : List FlagStore :=
  [.thdExist, .mustStop, .done]

theorem moves
    (input : Input)
    (thread : Local)
    (flags : WorkerFlags)
    (present : (stage thread.pc).hasExited = false) :
    (stage thread.pc).Moves flags
      (stage (next input flags.mustStop thread).pc)
      (store flags thread.pc) := by
  obtain ⟨pc, distApproach⟩ := thread
  cases pc with
  | testMustStop =>
      cases requested : flags.mustStop <;>
        simp [next, stage, store, Stage.Moves, requested]
  | testDist =>
      simp only [next]
      split <;> simp [stage, store, Stage.Moves]
  | drive leg point =>
      simp only [next]
      split
      · simp [stage, store, Stage.Moves]
      · cases leg <;> simp [afterDrive, stage, store, Stage.Moves]
  | exited exit =>
      cases present
  | clearExistStopped | clearExistServed =>
      exact ⟨rfl, rfl⟩
  | _ =>
      simp [next, stage, store, Stage.Moves]

/-- `Beer` as a worker. -/
def program : WorkerProgram where
  Local := Local
  Statics := Unit
  Input := Input
  entry := entry
  step input thread _ flags :=
    (next input flags.mustStop thread, (), store flags thread.pc)
  stage thread := stage thread.pc
  startStores := beerStart
  entryRunning := rfl
  moves input thread _ flags present := moves input thread flags present
  storesExist := by decide
  storesStop := by decide

end EPuckTavern.Beer
