import EPuckTavern.WorkerRegister

namespace EPuckTavern

open Transition

/-!
# A worker alone with the motors

Scan, Beer and PidRegulator leave the motors alone except through their own
statements, and each statement lasts some time.  `Solo` puts one worker
together with the speeds last set and with the distance the robot has gone
under them.  Other threads may store any flag between two statements, but do
not drive.

Every worker leaves the motors stopped: at each control point it knows enough
of the two speeds to be sure of them once it calls `chThdExit`.
-/

/-- The speeds last set on the two motors [step/s]. -/
structure Motors where
  left : Int
  right : Int
  deriving Repr, DecidableEq

namespace Motors

/-- Both motors at `SPEED_STOP`. -/
def stopped : Motors :=
  ⟨speedStop, speedStop⟩

/-- The speeds after a command. -/
def set (motors : Motors) (command : MotorCommand) : Motors :=
  match command.motor with
  | .left => { motors with left := command.speed }
  | .right => { motors with right := command.speed }

/-- The speeds after a statement that commands a motor, or none. -/
def after (motors : Motors) (command? : Option MotorCommand) : Motors :=
  match command? with
  | none => motors
  | some command => motors.set command

@[simp] theorem after_none (motors : Motors) :
    motors.after none = motors :=
  rfl

@[simp] theorem after_leftMotorSetSpeed
    (motors : Motors)
    (speed : Int) :
    motors.after (some (leftMotorSetSpeed speed)) =
      ⟨speed, motors.right⟩ :=
  rfl

@[simp] theorem after_rightMotorSetSpeed
    (motors : Motors)
    (speed : Int) :
    motors.after (some (rightMotorSetSpeed speed)) =
      ⟨motors.left, speed⟩ :=
  rfl

/-- The speed of the robot along its axis [step/s]. -/
def forward (motors : Motors) : ℚ :=
  ((motors.left + motors.right : Int) : ℚ) / 2

/-- The steps that the robot goes forward in `elapsed` [ms]. -/
def advance (motors : Motors) (elapsed : ℚ) : ℚ :=
  motors.forward * (elapsed / 1000)

@[simp] theorem advance_zero (motors : Motors) :
    motors.advance 0 = 0 := by
  simp [advance]

theorem advance_of_forward
    {motors : Motors}
    (inPlace : motors.forward = 0)
    (elapsed : ℚ) :
    motors.advance elapsed = 0 := by
  simp [advance, inPlace]

/-- A robot that is stopped has no speed. -/
@[simp] theorem forward_stopped : stopped.forward = 0 := by
  simp [forward, stopped, speedStop]

/-- Stopped left and right is stopped. -/
theorem eq_stopped
    {left right : Int}
    (leftStopped : left = speedStop)
    (rightStopped : right = speedStop) :
    (⟨left, right⟩ : Motors) = stopped := by
  rw [leftStopped, rightStopped]
  rfl

end Motors

/-- One worker, the flags, the motors and the way gone. -/
structure Solo (program : WorkerProgram) where
  flags : WorkerFlags
  statics : program.Statics
  thread : program.Local
  motors : Motors
  /-- Integral of `Motors.forward` over time [steps]. -/
  displacement : ℚ

namespace Solo

/-- A statement of the worker, or a store of another thread. -/
inductive Action (program : WorkerProgram) where
  /-- Another thread stores flags, such as a request to stop. -/
  | flags (found : WorkerFlags)
  /-- The worker's next statement, which lasts `elapsed` [ms]. -/
  | statement (input : program.Input) (elapsed : ℚ)

variable {program : WorkerProgram}

/-- The worker at its first statement. -/
def start
    (program : WorkerProgram)
    (flags : WorkerFlags)
    (statics : program.Statics)
    (motors : Motors) : Solo program where
  flags := flags
  statics := statics
  thread := program.entry
  motors := motors
  displacement := 0

/-- A statement with the motor command it makes. -/
def statement
    (command? : program.Local → Option MotorCommand)
    (state : Solo program)
    (input : program.Input)
    (elapsed : ℚ) : Solo program :=
  let result := program.step input state.thread state.statics state.flags
  { flags := result.2.2
    statics := result.2.1
    thread := result.1
    motors := state.motors.after (command? state.thread)
    displacement := state.displacement + state.motors.advance elapsed }

/-- The robot moves on while a statement lasts. -/
def step?
    (command? : program.Local → Option MotorCommand) :
    Step (Solo program) (Action program)
  | state, .flags found =>
      some { state with flags := found }
  | state, .statement input elapsed =>
      if (program.stage state.thread).hasExited then
        none
      else
        some (statement command? state input elapsed)

variable {command? : program.Local → Option MotorCommand}

/-- Every enabled step, by what it does to the state. -/
theorem step?_cases
    {state next : Solo program}
    {action : Action program}
    (taken : step? command? state action = some next) :
    (∃ found,
      action = .flags found ∧ next = { state with flags := found }) ∨
      (∃ input elapsed,
        action = .statement input elapsed ∧
          (program.stage state.thread).hasExited = false ∧
          next = statement command? state input elapsed) := by
  cases action with
  | flags found =>
      simp only [step?, Option.some.injEq] at taken
      exact .inl ⟨found, rfl, taken.symm⟩
  | statement input elapsed =>
      cases gone : (program.stage state.thread).hasExited with
      | true =>
          simp [step?, gone] at taken
      | false =>
          simp only [step?, gone, Bool.false_eq_true, ↓reduceIte,
            Option.some.injEq] at taken
          exact .inr ⟨input, elapsed, rfl, rfl, taken.symm⟩

end Solo

/-- What a worker knows of the motors, enough to have stopped them. -/
structure MotorKnowledge
    (program : WorkerProgram)
    (command? : program.Local → Option MotorCommand) where
  knows : program.Local → Motors → Prop
  kept :
    ∀ {input thread statics flags motors},
      knows thread motors →
      knows (program.step input thread statics flags).1
        (motors.after (command? thread))
  stopped :
    ∀ {thread motors},
      knows thread motors →
      (program.stage thread).hasExited = true →
      motors = .stopped

/-- Run lemma: what the worker knows at its entry it knows all along. -/
theorem MotorKnowledge.run
    {program : WorkerProgram}
    {command? : program.Local → Option MotorCommand}
    (knowledge : MotorKnowledge program command?)
    {state final : Solo program}
    {actions : List (Solo.Action program)}
    (initially : knowledge.knows state.thread state.motors)
    (ran : run? (Solo.step? command?) state actions = some final) :
    knowledge.knows final.thread final.motors := by
  have kept :
      ∀ {state : Solo program} {action next},
        knowledge.knows state.thread state.motors →
        Solo.step? command? state action = some next →
        knowledge.knows next.thread next.motors := by
    intro state action next known taken
    rcases Solo.step?_cases taken with
      ⟨found, rfl, rfl⟩ | ⟨input, elapsed, rfl, present, rfl⟩
    · exact known
    · exact knowledge.kept known
  exact run?_invariant kept initially ran

namespace Scan

/-- What holds of the motors at a control point of `Scan`. -/
def MotorsAt (pc : Pc) (motors : Motors) : Prop :=
  match pc with
  | .stopRight | .drive _ .stopRight =>
      motors.left = speedStop
  | .clearMustStop | .clearExistStopped | .exitStopped
  | .resumeImage | .sleepScan | .colorScan _ | .pauseImage | .testColor
  | .setGoodColor | .clearExistFound | .exitFound | .exited _ =>
      motors = .stopped
  | _ =>
      True

/-- Each statement of `Scan` leaves the speeds of its control point. -/
theorem motorsAt_next
    {input : Input}
    {mustStop : Bool}
    {thread : Local}
    {motors : Motors}
    (known : MotorsAt thread.pc motors) :
    MotorsAt (next input mustStop thread).pc
      (motors.after (command? thread)) := by
  obtain ⟨pc, distApproach, colorScanned⟩ := thread
  cases pc with
  | testMustStop => cases mustStop <;> exact trivial
  | stopLeft => exact rfl
  | stopRight => exact Motors.eq_stopped known rfl
  | testMax | spin =>
      cases inRange : belowMax input.distMm <;>
        simp only [next, inRange, Bool.false_eq_true, ↓reduceIte] <;>
        exact trivial
  | testMin =>
      cases inRange : aboveMin input.distMm <;>
        simp only [next, inRange, Bool.false_eq_true, ↓reduceIte] <;>
        exact trivial
  | drive leg point =>
      cases point with
      | driveLeft | sleep => exact trivial
      | driveRight =>
          simp only [next, DistanceApproach.next?]
          split <;> rename_i following <;> split at following <;>
            cases following <;> exact trivial
      | stopLeft => exact rfl
      | stopRight =>
          cases leg with
          | approach => exact Motors.eq_stopped known rfl
          | retreat => exact trivial
  | colorScan point =>
      simp only [next]
      split <;> exact known
  | testColor =>
      simp only [next]
      split
      · exact known
      · exact trivial
  | clearMustStop | clearExistStopped | exitStopped | resumeImage
  | sleepScan | pauseImage | setGoodColor | clearExistFound | exitFound
  | exited _ => exact known
  | _ => exact trivial

/-- What `Scan` knows of the motors. -/
def motorKnowledge : MotorKnowledge program command? where
  knows thread motors := MotorsAt thread.pc motors
  kept known := motorsAt_next known
  stopped {thread _} known exited := by
    obtain ⟨pc, distApproach, colorScanned⟩ := thread
    cases pc with
    | exited exit => exact known
    | _ => cases exited

end Scan

namespace Beer

/-- `Beer` drives only inside its two calls of `distance_approach`. -/
def MotorsAt (pc : Pc) (motors : Motors) : Prop :=
  match pc with
  | .drive _ .stopRight => motors.left = speedStop
  | .drive _ _ => True
  | _ => motors = .stopped

/-- Each statement of `Beer` leaves the speeds of its control point. -/
theorem motorsAt_next
    {input : Input}
    {mustStop : Bool}
    {thread : Local}
    {motors : Motors}
    (known : MotorsAt thread.pc motors) :
    MotorsAt (next input mustStop thread).pc
      (motors.after (command? thread)) := by
  obtain ⟨pc, distApproach⟩ := thread
  cases pc with
  | testMustStop => cases mustStop <;> exact known
  | testDist =>
      simp only [next]
      split
      · exact trivial
      · exact known
  | drive leg point =>
      cases point with
      | driveLeft | sleep => exact trivial
      | driveRight =>
          simp only [next, DistanceApproach.next?]
          split <;> rename_i following <;> split at following <;>
            cases following <;> exact trivial
      | stopLeft => exact rfl
      | stopRight =>
          cases leg <;> exact Motors.eq_stopped known rfl
  | sleepBeer => exact trivial
  | _ => exact known

/-- What `Beer` knows of the motors. -/
def motorKnowledge : MotorKnowledge program command? where
  knows thread motors := MotorsAt thread.pc motors
  kept known := motorsAt_next known
  stopped {thread _} known exited := by
    obtain ⟨pc, distApproach⟩ := thread
    cases pc with
    | exited exit => exact known
    | _ => cases exited

end Beer

namespace PidDistance

/-- What holds of the motors at a control point of `PidRegulator`. -/
def MotorsAt (pc : Pc) (motors : Motors) : Prop :=
  match pc with
  | .stopLeft | .endSwingLeft =>
      motors.right = speedStop
  | .clearMustStop | .clearExistStopped | .exitStopped
  | .clearExistDone | .exitDone | .exited _ =>
      motors = .stopped
  | _ =>
      True

/-- Each statement of `PidRegulator` leaves the speeds of its control point. -/
theorem motorsAt_next
    {round : ℚ → ℚ}
    {input : Input}
    {mustStop : Bool}
    {thread : Local}
    {memory : Memory}
    {motors : Motors}
    (known : MotorsAt thread.pc motors) :
    MotorsAt (next round input mustStop thread memory).1.pc
      (motors.after (command? thread)) := by
  obtain ⟨pc, speed⟩ := thread
  cases pc with
  | testMustStop => cases mustStop <;> exact trivial
  | stopRight | endSwingRight => exact rfl
  | stopLeft | endSwingLeft => exact Motors.eq_stopped rfl known
  | testSpeed =>
      simp only [next]
      split
      · split <;> exact trivial
      · exact trivial
  | clearMustStop | clearExistStopped | exitStopped | clearExistDone
  | exitDone | exited _ => exact known
  | _ => exact trivial

/-- What `PidRegulator` knows of the motors. -/
def motorKnowledge
    (round : ℚ → ℚ) : MotorKnowledge (program round) command? where
  knows thread motors := MotorsAt thread.pc motors
  kept known := motorsAt_next known
  stopped {thread _} known exited := by
    obtain ⟨pc, speed⟩ := thread
    cases pc with
    | exited exit => exact known
    | _ => cases exited

end PidDistance

namespace WorkerId

variable (round : ℚ → ℚ)

/-- The motor command of the next statement of a worker. -/
def command? :
    (worker : WorkerId) →
      (worker.program round).Local → Option MotorCommand
  | .scan => Scan.command?
  | .beer => Beer.command?
  | .pid => PidDistance.command?

/-- `Beer` commands no motor on its way out, so it must find them stopped. -/
def StartsFrom (motors : Motors) : WorkerId → Prop
  | .beer => motors = .stopped
  | .scan | .pid => True

/-- What each kind of worker knows of the motors. -/
def motorKnowledge :
    (worker : WorkerId) →
      MotorKnowledge (worker.program round) (worker.command? round)
  | .scan => Scan.motorKnowledge
  | .beer => Beer.motorKnowledge
  | .pid => PidDistance.motorKnowledge round

theorem knows_entry
    {worker : WorkerId}
    {motors : Motors}
    (startsFrom : worker.StartsFrom motors) :
    (worker.motorKnowledge round).knows
      (worker.program round).entry motors := by
  cases worker with
  | scan | pid => exact trivial
  | beer => exact startsFrom

end WorkerId

/--
In every run of a worker, Scan and PidRegulator from any motor speeds and
Beer from stopped motors, with any flags stored by other threads in between:
once the worker has executed `chThdExit`, both motors are stopped.
-/
theorem motors_stopped_of_exited
    (round : ℚ → ℚ)
    (worker : WorkerId)
    (flags : WorkerFlags)
    (statics : (worker.program round).Statics)
    {motors : Motors}
    (startsFrom : worker.StartsFrom motors)
    {actions : List (Solo.Action (worker.program round))}
    {final : Solo (worker.program round)}
    (ran :
      run? (Solo.step? (worker.command? round))
        (.start _ flags statics motors) actions = some final)
    (exited :
      ((worker.program round).stage final.thread).hasExited = true) :
    final.motors = .stopped := by
  have atEntry :
      (worker.motorKnowledge round).knows
        (worker.program round).entry motors :=
    worker.knows_entry round startsFrom
  have known :
      (worker.motorKnowledge round).knows final.thread final.motors :=
    (worker.motorKnowledge round).run atEntry ran
  exact (worker.motorKnowledge round).stopped known exited

/-- `stop_scan` reaches `Scan` while it turns in search of an object. -/
def scanStopped : List (Solo.Action Scan.program) :=
  .flags ⟨true, true, false⟩ ::
    List.replicate 6 (.statement ⟨400, false, false, .rouge⟩ 0)

/-- `Scan` starts while the robot turns. -/
def scanTurning : Solo Scan.program :=
  .start _ .initial () ⟨rotationSpeed, -rotationSpeed⟩

theorem scanStopped_motors :
    ((run? (Solo.step? Scan.command?) scanTurning scanStopped).getD
        scanTurning).motors = .stopped :=
  motors_stopped_of_exited id .scan .initial () trivial
    (run?_eq_some_getD rfl) rfl

end EPuckTavern
