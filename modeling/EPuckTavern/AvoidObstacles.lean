import EPuckTavern.PausableThread

namespace EPuckTavern.AvoidObstacles

/-!
# The obstacle avoidance thread `avoid_obstacles`

A pass over one proximity message tests the sensors in order and runs a
manoeuvre for each one above the threshold: stop, rotate until a rear sensor
answers (or the timeout expires with a free front), drive forward, stop.  A
control point names the next atomic statement; the thread is blocked at a
point that waits for the message bus or for the end of a sleep.
-/

/-- `PROXIMITY_NB_CHANNELS` -/
abbrev proximityNbChannels : Nat := 8

/-- `PROXIMITY_NB_HALF` -/
def proximityNbHalf : Nat := 4

/-- `PROXIMITY_THRESHOLD` -/
def proximityThreshold : Nat := 150

/-- `AVOIDANCE_SPEED` [step/s]. -/
def avoidanceSpeed : Int := 700

/-- `AVOIDANCE_DURATION` [s]. -/
def avoidanceDuration : UInt32 := 3

/-- `avoid_obstacles_start_thd` on the flags of `avoid_obstacles.c`. -/
def avoidObstaclesStartThd : PauseFlags → PauseFlags :=
  PauseFlags.startThd

/-- `avoid_obstacles_pause_thd` -/
def avoidObstaclesPauseThd : PauseFlags → PauseFlags :=
  PauseFlags.pauseThd

/-- `avoid_obstacles_resume_thd` -/
def avoidObstaclesResumeThd : PauseFlags → PauseFlags :=
  PauseFlags.resumeThd

/-- The field of `proximity_msg_t` that the thread reads. -/
structure ProximityMsg where
  delta : Fin proximityNbChannels → UInt32

/-- `abs`: the least `int` has no negation, and its result is negative. -/
def abs (value : BitVec 32) : Int :=
  value.abs.toInt

/-- `abs(prox_values.delta[k]) > PROXIMITY_THRESHOLD`, reread as `int`. -/
def triggered (msg : ProximityMsg) (sensor : Fin proximityNbChannels) : Bool :=
  decide (abs (msg.delta sensor).toBitVec > proximityThreshold)

/--
Index of the sensor loop: `i < PROXIMITY_NB_CHANNELS - 1`, so the last
channel is never tested by it.
-/
abbrev LoopIndex := Fin (proximityNbChannels - 1)

/-- The loop does not come to the last channel. -/
def LoopIndex.channel (index : LoopIndex) : Fin proximityNbChannels :=
  index.castSucc

/-- Control points of `avoid_obstacles`; `sensor` is the `for` counter. -/
inductive Pc where
  | setup
  | readTime
  | testPaused
  | topicWait
  | testSensor (sensor : LoopIndex)
  | stopLeft (sensor : LoopIndex)
  | stopRight (sensor : LoopIndex)
  | rotateLeft (sensor : LoopIndex)
  | rotateRight (sensor : LoopIndex)
  | readTimeAvoid (sensor : LoopIndex)
  | testRear (sensor : LoopIndex)
  | testFront (sensor : LoopIndex)
  | turnWait (sensor : LoopIndex)
  | forwardLeft (sensor : LoopIndex)
  | forwardRight (sensor : LoopIndex)
  | sleepForward (sensor : LoopIndex)
  | endLeft (sensor : LoopIndex)
  | endRight (sensor : LoopIndex)
  | sleepUntil
  deriving Repr, DecidableEq

/-- The thread: where it stands, and its two local variables. -/
structure Local where
  pc : Pc
  proxValues : ProximityMsg
  timeAvoid : Systime

/-- What a statement can read from outside: the clock and the next message. -/
structure Input where
  clock : Systime
  message : ProximityMsg

/-- The thread before its first statement. -/
def entry : Local where
  pc := .setup
  proxValues := ⟨fun _ => 0⟩
  timeAvoid := 0

/-- Leave the `for` body: `i++` and the loop test. -/
def afterSensor (sensor : LoopIndex) : Pc :=
  if more : sensor.val + 1 < proximityNbChannels - 1 then
    .testSensor ⟨sensor.val + 1, more⟩
  else
    .sleepUntil

/-- The condition of the rotation loop: neither rear sensor answers. -/
def rearClear (msg : ProximityMsg) : Bool :=
  !triggered msg 3 && !triggered msg 4

/-- No sensor of the front is over the threshold. -/
def frontClear (msg : ProximityMsg) : Bool :=
  !triggered msg 0 && !triggered msg 1 &&
    !triggered msg 6 && !triggered msg 7

/-- One statement of `avoid_obstacles`, given the value of `is_paused`. -/
def step (isPaused : Bool) (thread : Local) (input : Input) : Local :=
  match thread.pc with
  | .setup => { thread with pc := .readTime }
  | .readTime => { thread with pc := .testPaused }
  | .testPaused =>
      { thread with pc := if !isPaused then .topicWait else .sleepUntil }
  | .topicWait =>
      { thread with
        pc := .testSensor ⟨0, by decide⟩
        proxValues := input.message }
  | .testSensor sensor =>
      if triggered thread.proxValues sensor.channel then
        { thread with pc := .stopLeft sensor }
      else
        { thread with pc := afterSensor sensor }
  | .stopLeft sensor => { thread with pc := .stopRight sensor }
  | .stopRight sensor => { thread with pc := .rotateLeft sensor }
  | .rotateLeft sensor => { thread with pc := .rotateRight sensor }
  | .rotateRight sensor => { thread with pc := .readTimeAvoid sensor }
  | .readTimeAvoid sensor =>
      { thread with pc := .testRear sensor, timeAvoid := input.clock }
  | .testRear sensor =>
      if rearClear thread.proxValues then
        { thread with pc := .testFront sensor }
      else
        { thread with pc := .forwardLeft sensor }
  | .testFront sensor =>
      -- The timeout alone does not end the rotation: the front must be free.
      if input.clock - thread.timeAvoid > s2st avoidanceDuration &&
          frontClear thread.proxValues then
        { thread with pc := .forwardLeft sensor }
      else
        { thread with pc := .turnWait sensor }
  | .turnWait sensor =>
      { thread with pc := .testRear sensor, proxValues := input.message }
  | .forwardLeft sensor => { thread with pc := .forwardRight sensor }
  | .forwardRight sensor => { thread with pc := .sleepForward sensor }
  | .sleepForward sensor => { thread with pc := .endLeft sensor }
  | .endLeft sensor => { thread with pc := .endRight sensor }
  | .endRight sensor => { thread with pc := afterSensor sensor }
  | .sleepUntil => { thread with pc := .readTime }

/-- Sensors 0..3 are on the right: the robot rotates away to the left. -/
def leftTurnSpeed (sensor : LoopIndex) : Int :=
  if sensor.val < proximityNbHalf then -speedRotation else speedRotation

/-- The motor command that the statement at a control point issues. -/
def command? : Pc → Option MotorCommand
  | .stopLeft _ => some (leftMotorSetSpeed speedStop)
  | .stopRight _ => some (rightMotorSetSpeed speedStop)
  | .rotateLeft sensor => some (leftMotorSetSpeed (leftTurnSpeed sensor))
  | .rotateRight sensor => some (rightMotorSetSpeed (-leftTurnSpeed sensor))
  | .forwardLeft _ => some (leftMotorSetSpeed avoidanceSpeed)
  | .forwardRight _ => some (rightMotorSetSpeed avoidanceSpeed)
  | .endLeft _ => some (leftMotorSetSpeed speedStop)
  | .endRight _ => some (rightMotorSetSpeed speedStop)
  | _ => none

/-- Points at which the thread sleeps or waits for the message bus. -/
def blocked : Pc → Bool
  | .setup | .topicWait | .turnWait _ | .sleepForward _ | .sleepUntil => true
  | _ => false

/-- After the first motor command of a manoeuvre and before its last one. -/
def inManoeuvre : Pc → Bool
  | .stopRight _ | .rotateLeft _ | .rotateRight _ | .readTimeAvoid _
  | .testRear _ | .testFront _ | .turnWait _ | .forwardLeft _
  | .forwardRight _ | .sleepForward _ | .endLeft _ | .endRight _ => true
  | _ => false

/--
A manoeuvre can only be suspended in its rotation loop, on the message bus,
and in its forward move, asleep.
-/
theorem blocked_inManoeuvre
    {pc : Pc}
    (isBlocked : blocked pc = true)
    (manoeuvring : inManoeuvre pc = true) :
    ∃ sensor, pc = .turnWait sensor ∨ pc = .sleepForward sensor := by
  cases pc with
  | turnWait sensor =>
      exact ⟨sensor, .inl rfl⟩
  | sleepForward sensor =>
      exact ⟨sensor, .inr rfl⟩
  | _ =>
      simp [blocked, inManoeuvre] at isBlocked manoeuvring

/-- Some sensor that the loop has still to test is above the threshold. -/
def triggersFrom (msg : ProximityMsg) (first : Nat) : Prop :=
  ∃ sensor : LoopIndex,
    first ≤ sensor.val ∧ triggered msg sensor.channel = true

/--
Every motor command that lies ahead is behind the next test of `is_paused`:
the thread is outside its pass, or in the sensor loop with no triggered
sensor left to find.
-/
def Quiet (thread : Local) : Prop :=
  match thread.pc with
  | .setup | .readTime | .testPaused | .sleepUntil => True
  | .testSensor sensor => ¬ triggersFrom thread.proxValues sensor.val
  | _ => False

/-- A thread outside its pass issues no command. -/
theorem command?_of_quiet
    {thread : Local}
    (quiet : Quiet thread) :
    command? thread.pc = none := by
  obtain ⟨pc, values, time⟩ := thread
  cases pc <;> first | exact quiet.elim | rfl

/-- A paused thread that is outside its pass stays outside. -/
theorem quiet_step
    {thread : Local}
    (quiet : Quiet thread)
    (input : Input) :
    Quiet (step true thread input) := by
  obtain ⟨pc, values, time⟩ := thread
  cases pc with
  | setup =>
      trivial
  | readTime =>
      trivial
  | testPaused =>
      trivial
  | sleepUntil =>
      trivial
  | testSensor sensor =>
      have noneLeft : ¬ triggersFrom values sensor.val := quiet
      have notThis : triggered values sensor.channel = false := by
        cases found : triggered values sensor.channel with
        | false => rfl
        | true => exact (noneLeft ⟨sensor, Nat.le_refl _, found⟩).elim
      simp only [step, notThis, Bool.false_eq_true, ↓reduceIte, afterSensor]
      split
      · rintro ⟨later, above, found⟩
        exact noneLeft ⟨later, Nat.le_of_succ_le above, found⟩
      · trivial
  | _ =>
      exact quiet.elim

section CommandAhead

variable {isPaused : Bool}

/-- Left alone with some inputs, the thread comes to a motor command. -/
def CommandAhead (isPaused : Bool) (thread : Local) : Prop :=
  ∃ inputs : List Input,
    (command? (inputs.foldl (step isPaused) thread).pc).isSome = true

/-- A statement that issues a command has it ahead. -/
theorem CommandAhead.now
    {thread : Local}
    (issues : (command? thread.pc).isSome = true) :
    CommandAhead isPaused thread :=
  ⟨[], issues⟩

/-- What is ahead after a step was ahead before it. -/
theorem CommandAhead.later
    {thread : Local}
    (input : Input)
    (ahead : CommandAhead isPaused (step isPaused thread input)) :
    CommandAhead isPaused thread := by
  obtain ⟨inputs, issues⟩ := ahead
  exact ⟨input :: inputs, issues⟩

/-- A message with each sensor over the threshold. -/
def allTriggered : ProximityMsg :=
  ⟨fun _ => 200⟩

/-- Such a message at the time 0. -/
def hit : Input :=
  ⟨0, allTriggered⟩

/-- Each sensor is over the threshold in it. -/
theorem triggered_allTriggered
    (sensor : Fin proximityNbChannels) :
    triggered allTriggered sensor = true := by
  have high : abs 200 > (proximityThreshold : Int) := by decide
  exact decide_eq_true high

/-- From the rotation loop it is one message to a command. -/
theorem commandAhead_turnWait
    (sensor : LoopIndex)
    (values : ProximityMsg)
    (time : Systime) :
    CommandAhead isPaused ⟨.turnWait sensor, values, time⟩ :=
  .later hit (.later hit (.now (by
    simp [step, hit, rearClear, triggered_allTriggered, command?])))

/-- From the test of the sensors at the back a command can follow. -/
theorem commandAhead_testRear
    (sensor : LoopIndex)
    (values : ProximityMsg)
    (time : Systime) :
    CommandAhead isPaused ⟨.testRear sensor, values, time⟩ := by
  refine .later hit ?_
  simp only [step]
  split
  · refine .later hit ?_
    simp only [step]
    split
    · exact .now rfl
    · exact commandAhead_turnWait sensor values time
  · exact .now rfl

/-- If a sensor from here on is over the threshold, the loop turns to it. -/
theorem commandAhead_testSensor
    (values : ProximityMsg)
    (time : Systime)
    (sensor : LoopIndex)
    (triggers : triggersFrom values sensor.val) :
    CommandAhead isPaused ⟨.testSensor sensor, values, time⟩ := by
  -- The loop counter decides how many sensors are still to be passed over.
  induction remaining : proximityNbChannels - sensor.val
      generalizing sensor with
  | zero =>
      have := sensor.isLt
      omega
  | succ left inductionHypothesis =>
      refine .later hit ?_
      cases found : triggered values sensor.channel with
      | true =>
          simp only [step, found, ↓reduceIte]
          exact .now rfl
      | false =>
          obtain ⟨target, above, targetFound⟩ := triggers
          have notThis : target.val ≠ sensor.val := by
            intro same
            rw [Fin.ext same, found] at targetFound
            cases targetFound
          have further : sensor.val + 1 ≤ target.val :=
            Nat.lt_of_le_of_ne above notThis.symm
          have more : sensor.val + 1 < proximityNbChannels - 1 :=
            Nat.lt_of_le_of_lt further target.isLt
          simp only [step, found, Bool.false_eq_true, ↓reduceIte,
            afterSensor, more, ↓reduceDIte]
          exact inductionHypothesis ⟨sensor.val + 1, more⟩
            ⟨target, further, targetFound⟩ (by simp only; omega)

/-- A thread that is not quiet can come to a motor command before its test. -/
theorem commandAhead_of_not_quiet
    {thread : Local}
    (moving : ¬ Quiet thread) :
    CommandAhead isPaused thread := by
  obtain ⟨pc, values, time⟩ := thread
  cases pc with
  | setup | readTime | testPaused | sleepUntil =>
      exact (moving trivial).elim
  | topicWait =>
      refine .later hit (.later hit (.now ?_))
      simp [step, hit, triggered_allTriggered, command?]
  | testSensor sensor =>
      exact commandAhead_testSensor values time sensor
        (Classical.not_not.mp moving)
  | readTimeAvoid sensor =>
      exact .later hit (commandAhead_testRear sensor values 0)
  | testRear sensor =>
      exact commandAhead_testRear sensor values time
  | testFront sensor =>
      refine .later hit ?_
      simp only [step]
      split
      · exact .now rfl
      · exact commandAhead_turnWait sensor values time
  | turnWait sensor =>
      exact commandAhead_turnWait sensor values time
  | sleepForward sensor =>
      exact .later hit (.now rfl)
  | _ =>
      exact .now rfl

theorem commandAhead_entry :
    CommandAhead false entry :=
  .later hit (.later hit (.later hit
    (.later hit (.later hit (.now rfl)))))

end CommandAhead

end EPuckTavern.AvoidObstacles
