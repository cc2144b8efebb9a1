import EPuckTavern.Stroll

namespace EPuckTavern.Stroll

open Transition

/-!
# The stroll beside an avoidance manoeuvre

Both threads write the motors without a lock.  The avoidance thread has the
higher priority (`NORMALPRIO+8`), so the stroll thread runs only while the
avoidance thread is blocked; inside a manoeuvre that is the case on the
message bus and in the forward sleep, and nowhere else.

There the stroll can take the motors, and does.  What is left of a manoeuvre
is told by the last command that each motor has received: the two commands of
a pair take effect together, so the rotation and the forward move begin as
commanded and the manoeuvre ends with both motors stopped.
-/

/--
Fixed-priority scheduling: main and the stroll thread (`NORMALPRIO`) run only
while the avoidance thread does not exist or is blocked.
-/
def schedulable (state : State) : Action → Bool
  | .avoidObstacles _ => true
  | _ =>
      match state.avoidObstacles with
      | none => true
      | some thread => AvoidObstacles.blocked thread.pc

/-- One step of the system under the priorities of the two threads. -/
def scheduledStep? : Step State Action :=
  fun state action =>
    if schedulable state action then step? state action else none

/-- A scheduled step is one that the priorities allow. -/
theorem scheduled_some
    {state next : State}
    {action : Action}
    (taken : scheduledStep? state action = some next) :
    schedulable state action = true ∧
      step? state action = some next := by
  simp only [scheduledStep?] at taken
  split at taken
  · rename_i allowed
    exact ⟨allowed, taken⟩
  · cases taken

/-- `thd_walk` issues a command. -/
def WalkDrives (state : State) (action : Action) : Prop :=
  action = .walk ∧
    ∃ event ∈ emit state action, event.thread = .walk

/-- A manoeuvre has begun and its two final stop commands are not both out. -/
def Manoeuvring (state : State) : Prop :=
  ∃ thread,
    state.avoidObstacles = some thread ∧
      AvoidObstacles.inManoeuvre thread.pc = true

/-- The manoeuvre is suspended: on the message bus or in its forward sleep. -/
def Suspended (state : State) : Prop :=
  ∃ thread sensor,
    state.avoidObstacles = some thread ∧
      (thread.pc = .turnWait sensor ∨
        thread.pc = .sleepForward sensor)

/-- Whoever has a lower priority runs in a suspension only. -/
theorem suspended_of_scheduled
    {state next : State}
    {action : Action}
    (lower : ∀ input, action ≠ .avoidObstacles input)
    (taken : scheduledStep? state action = some next)
    (manoeuvring : Manoeuvring state) :
    Suspended state := by
  obtain ⟨thread, current, inside⟩ := manoeuvring
  have allowed := (scheduled_some taken).1
  have isBlocked : AvoidObstacles.blocked thread.pc = true := by
    cases action with
    | avoidObstacles input => exact (lower input rfl).elim
    | _ => simpa [schedulable, current] using allowed
  obtain ⟨sensor, suspended⟩ :=
    AvoidObstacles.blocked_inManoeuvre isBlocked inside
  exact ⟨thread, sensor, current, suspended⟩

/-- The speeds of the rotation away from the obstacle at a sensor. -/
def turnSpeed (sensor : AvoidObstacles.LoopIndex) : Motor → Int
  | .left => AvoidObstacles.leftTurnSpeed sensor
  | .right => -AvoidObstacles.leftTurnSpeed sensor

/--
The speed to which a manoeuvre has last set a motor, by its control point;
`none` where it has not done so yet.
-/
def manoeuvreSpeed? : AvoidObstacles.Pc → Motor → Option Int
  | .stopRight _, .left => some speedStop
  | .rotateLeft _, _ => some speedStop
  | .rotateRight sensor, .left => some (turnSpeed sensor .left)
  | .rotateRight _, .right => some speedStop
  | .readTimeAvoid sensor, motor | .testRear sensor, motor
  | .testFront sensor, motor | .turnWait sensor, motor
  | .forwardLeft sensor, motor => some (turnSpeed sensor motor)
  | .forwardRight _, .left => some AvoidObstacles.avoidanceSpeed
  | .forwardRight sensor, .right => some (turnSpeed sensor .right)
  | .sleepForward _, _ | .endLeft _, _ => some AvoidObstacles.avoidanceSpeed
  | .endRight _, .left => some speedStop
  | .endRight _, .right => some AvoidObstacles.avoidanceSpeed
  | _, _ => none

/-- A suspension may lie between the command to this motor and the point. -/
def exposed : AvoidObstacles.Pc → Motor → Bool
  | .testRear _, _ | .testFront _, _ | .turnWait _, _
  | .forwardLeft _, _ | .sleepForward _, _ | .endLeft _, _ => true
  | .forwardRight _, .right | .endRight _, .right => true
  | _, _ => false

/-- Where the second command of a pair is next: the speeds of the pair. -/
def pairSpeed? : AvoidObstacles.Pc → Motor → Option Int
  | .stopRight _, _ | .endRight _, _ => some speedStop
  | .rotateRight sensor, motor => some (turnSpeed sensor motor)
  | .forwardRight _, _ => some AvoidObstacles.avoidanceSpeed
  | _, _ => none

/-- The system, with the last command that each motor has received. -/
structure Steered where
  system : State
  last : Motor → Option Event

namespace Steered

/-- No motor has received a command. -/
def boot : Steered where
  system := Stroll.boot
  last := fun _ => none

/-- The motors after a command. -/
def obey
    (last : Motor → Option Event)
    (event : Event) : Motor → Option Event :=
  Function.update last event.command.motor (some event)

/-- One step under the priorities of the two threads. -/
def step? : Step Steered Action :=
  fun state action =>
    (scheduledStep? state.system action).map fun system => {
      system := system
      last := (emit state.system action).foldl obey state.last
    }

/-- `avoid_obstacles` has set the motor last, to this speed. -/
def Obeys (state : Steered) (motor : Motor) (speed : Int) : Prop :=
  state.last motor = some ⟨.avoidObstacles, ⟨motor, speed⟩⟩

/-- `thd_walk` has set the motor last, with one of its own commands. -/
def Strolls (state : Steered) (motor : Motor) : Prop :=
  ∃ pc command,
    Walk.command? pc = some command ∧ command.motor = motor ∧
      state.last motor = some ⟨.walk, command⟩

/--
Each motor has the speed of the manoeuvre, unless `thd_walk` has taken it in
a suspension of the manoeuvre.
-/
def Postured (state : Steered) : Prop :=
  ∀ thread motor speed,
    state.system.avoidObstacles = some thread →
    manoeuvreSpeed? thread.pc motor = some speed →
    state.Obeys motor speed ∨
      exposed thread.pc motor = true ∧ state.Strolls motor

/-- The second command of a pair leaves both motors at the pair's speeds. -/
def PairEffective (state : Steered) (action : Action) : Prop :=
  ∀ thread input next motor speed,
    state.system.avoidObstacles = some thread →
    action = .avoidObstacles input →
    step? state action = some next →
    pairSpeed? thread.pc motor = some speed →
    next.Obeys motor speed

/-- What is left of a manoeuvre beside the stroll. -/
def Kept (state : Steered) (action : Action) : Prop :=
  (WalkDrives state.system action →
      Manoeuvring state.system → Suspended state.system) ∧
    state.Postured ∧ state.PairEffective action

/-- A step of the schedule, with the commands that the motors obey. -/
theorem step?_some
    {state next : Steered}
    {action : Action}
    (taken : step? state action = some next) :
    scheduledStep? state.system action = some next.system ∧
      next.last = (emit state.system action).foldl obey state.last := by
  obtain ⟨system, scheduled, rfl⟩ := Option.map_eq_some_iff.mp taken
  exact ⟨scheduled, rfl⟩

theorem emit_avoidObstacles
    {state : State}
    {thread : AvoidObstacles.Local}
    (current : state.avoidObstacles = some thread)
    (input : AvoidObstacles.Input) :
    emit state (.avoidObstacles input) =
      (AvoidObstacles.command? thread.pc).toList.map
        (Event.mk .avoidObstacles) := by
  simp only [emit, current, Option.bind_some, Function.comp_apply]

theorem emit_walk
    {state : State}
    {pc : Walk.Pc}
    (current : state.walk = some pc) :
    emit state .walk =
      (Walk.command? pc).toList.map (Event.mk .walk) := by
  simp only [emit, current, Option.bind_some]

/--
Where the manoeuvre has set a motor in front of a statement, the statement
before has done so, or has left the motor as it found it.
-/
theorem manoeuvreSpeed?_step
    {isPaused : Bool}
    {thread : AvoidObstacles.Local}
    {input : AvoidObstacles.Input}
    {motor : Motor}
    {speed : Int}
    (ahead :
      manoeuvreSpeed? (AvoidObstacles.step isPaused thread input).pc motor =
        some speed) :
    AvoidObstacles.command? thread.pc = some ⟨motor, speed⟩ ∨
      (∀ command,
        AvoidObstacles.command? thread.pc = some command →
        command.motor ≠ motor) ∧
      manoeuvreSpeed? thread.pc motor = some speed ∧
      (exposed thread.pc motor = true →
        exposed (AvoidObstacles.step isPaused thread input).pc motor =
          true) := by
  obtain ⟨pc, values, time⟩ := thread
  have outside (sensor : AvoidObstacles.LoopIndex) :
      manoeuvreSpeed? (AvoidObstacles.afterSensor sensor) motor = none := by
    unfold AvoidObstacles.afterSensor
    split <;> rfl
  cases pc with
  | testPaused => cases isPaused <;> cases ahead
  | testSensor sensor =>
      simp only [AvoidObstacles.step] at ahead
      split at ahead
      · cases motor <;> cases ahead
      · rw [outside] at ahead
        cases ahead
  | endRight sensor =>
      rw [AvoidObstacles.step, outside] at ahead
      cases ahead
  | stopLeft sensor | stopRight sensor | rotateLeft sensor
  | rotateRight sensor | forwardLeft sensor | forwardRight sensor
  | endLeft sensor =>
      cases motor <;>
        simp_all [AvoidObstacles.step, AvoidObstacles.command?,
          manoeuvreSpeed?, exposed, turnSpeed, leftMotorSetSpeed,
          rightMotorSetSpeed]
  | testRear sensor | testFront sensor =>
      simp only [AvoidObstacles.step] at ahead ⊢
      refine .inr ⟨fun _ impossible => ?_, ?_, fun _ => ?_⟩
      · cases impossible
      · split at ahead <;> exact ahead
      · split <;> rfl
  | readTimeAvoid sensor | turnWait sensor | sleepForward sensor =>
      refine .inr ⟨fun _ impossible => ?_, ahead, fun _ => rfl⟩
      cases impossible
  | _ => cases ahead

/-- The first command of a pair still stands in front of the second. -/
theorem pairSpeed?_first
    {pc : AvoidObstacles.Pc}
    {motor : Motor}
    {speed : Int}
    (paired : pairSpeed? pc motor = some speed) :
    AvoidObstacles.command? pc = some ⟨motor, speed⟩ ∨
      (∀ command,
        AvoidObstacles.command? pc = some command →
        command.motor ≠ motor) ∧
      manoeuvreSpeed? pc motor = some speed ∧
      exposed pc motor = false := by
  cases pc with
  | stopRight sensor | rotateRight sensor | forwardRight sensor
  | endRight sensor =>
      cases motor <;>
        simp_all [AvoidObstacles.command?, manoeuvreSpeed?, pairSpeed?,
          exposed, turnSpeed, rightMotorSetSpeed]
  | _ => cases paired

/-- `thd_walk` finds the manoeuvre suspended, and both motors exposed. -/
theorem exposed_of_blocked
    {pc : AvoidObstacles.Pc}
    {motor : Motor}
    {speed : Int}
    (isBlocked : AvoidObstacles.blocked pc = true)
    (inside : manoeuvreSpeed? pc motor = some speed) :
    exposed pc motor = true := by
  cases pc with
  | turnWait sensor => rfl
  | sleepForward sensor => rfl
  | setup | topicWait | sleepUntil => cases inside
  | _ => cases isBlocked

/-- A command of `thd_walk` takes the motor it is for. -/
theorem strolls_obey
    {state next : Steered}
    {pc : Walk.Pc}
    {motor : Motor}
    (lasts :
      next.last =
        ((Walk.command? pc).toList.map (Event.mk .walk)).foldl obey
          state.last) :
    next.last motor = state.last motor ∨ next.Strolls motor := by
  cases issued : Walk.command? pc with
  | none =>
      rw [lasts, issued]
      exact .inl rfl
  | some command =>
      rw [issued] at lasts
      by_cases same : motor = command.motor
      · subst same
        exact .inr ⟨pc, command, issued, rfl,
          lasts ▸ Function.update_self _ _ _⟩
      · exact .inl (lasts ▸ Function.update_of_ne same _ _)

/-- A motor obeys the command that is issued for it. -/
theorem last_of_command
    {state next : Steered}
    {pc : AvoidObstacles.Pc}
    {motor : Motor}
    {speed : Int}
    (issued : AvoidObstacles.command? pc = some ⟨motor, speed⟩)
    (lasts :
      next.last =
        ((AvoidObstacles.command? pc).toList.map
          (Event.mk .avoidObstacles)).foldl obey state.last) :
    next.Obeys motor speed := by
  rw [Obeys, lasts, issued]
  exact Function.update_self _ _ _

/-- A motor that gets no command keeps its speed. -/
theorem last_of_no_command
    {state next : Steered}
    {pc : AvoidObstacles.Pc}
    {motor : Motor}
    (others :
      ∀ command,
        AvoidObstacles.command? pc = some command →
        command.motor ≠ motor)
    (lasts :
      next.last =
        ((AvoidObstacles.command? pc).toList.map
          (Event.mk .avoidObstacles)).foldl obey state.last) :
    next.last motor = state.last motor := by
  cases issued : AvoidObstacles.command? pc with
  | none =>
      rw [lasts, issued]
      rfl
  | some command =>
      rw [issued] at lasts
      exact lasts ▸
        Function.update_of_ne (others command issued).symm _ _

/-- A motor that has received no command is as it was. -/
theorem held_of_same
    {state next : Steered}
    {motor : Motor}
    {speed : Int}
    {wasExposed isExposed : Bool}
    (same : next.last motor = state.last motor)
    (still : wasExposed = true → isExposed = true)
    (held :
      state.Obeys motor speed ∨ wasExposed = true ∧ state.Strolls motor) :
    next.Obeys motor speed ∨ isExposed = true ∧ next.Strolls motor := by
  simp only [Obeys, Strolls] at held ⊢
  rw [same]
  exact held.imp_right (And.imp_left still)

/-- Step lemma: every step under the priorities keeps the posture. -/
theorem postured_step
    {state next : Steered}
    {action : Action}
    (postured : state.Postured)
    (taken : step? state action = some next) :
    next.Postured := by
  obtain ⟨scheduled, lasts⟩ := step?_some taken
  obtain ⟨allowed, stepped⟩ := scheduled_some scheduled
  intro thread motor speed current ahead
  rcases step?_cases stepped with
    ⟨callee, function, rfl, -, same⟩ |
    ⟨callee, point, rfl, -, same⟩ |
    ⟨pc, rfl, walking, same⟩ |
    ⟨input, before, rfl, avoiding, same⟩
  · rw [same] at current
    exact held_of_same (congrFun lasts motor) id
      (postured thread motor speed current ahead)
  · rw [same, State.callStep] at current
    split at current
    · cases callee with
      | walk =>
          exact held_of_same (congrFun lasts motor) id
            (postured thread motor speed current ahead)
      | avoidObstacles =>
          cases current
          cases ahead
    · exact held_of_same (congrFun lasts motor) id
        (postured thread motor speed current ahead)
  · rw [same] at current
    have here : state.system.avoidObstacles = some thread := current
    simp only [schedulable, here] at allowed
    rw [emit_walk walking] at lasts
    have isExposed := exposed_of_blocked allowed ahead
    rcases strolls_obey lasts with untouched | strolls
    · exact held_of_same untouched id
        (postured thread motor speed here ahead)
    · exact .inr ⟨isExposed, strolls⟩
  · rw [same] at current
    cases current
    rw [emit_avoidObstacles avoiding] at lasts
    rcases manoeuvreSpeed?_step ahead with issued | ⟨others, was, still⟩
    · exact .inl (last_of_command issued lasts)
    · exact held_of_same (last_of_no_command others lasts) still
        (postured before motor speed avoiding was)

/--
With both motors in their posture, the pair that is complete has taken effect.
-/
theorem Postured.pairEffective
    {state : Steered}
    (postured : state.Postured)
    (action : Action) :
    state.PairEffective action := by
  rintro thread input next motor speed current rfl taken paired
  obtain ⟨-, lasts⟩ := step?_some taken
  rw [emit_avoidObstacles current] at lasts
  rcases pairSpeed?_first paired with issued | ⟨others, was, hidden⟩
  · exact last_of_command issued lasts
  · have first :=
      (postured thread motor speed current was).resolve_right
        fun taken => absurd (hidden.symm.trans taken.1) Bool.false_ne_true
    exact (last_of_no_command others lasts).trans first

end Steered

/-- An obstacle in front. -/
def frontObstacle : AvoidObstacles.ProximityMsg where
  delta := fun sensor => if sensor.val = 0 then 200 else 0

/-- The message that tells of it. -/
def frontInput : AvoidObstacles.Input :=
  ⟨0, frontObstacle⟩

/--
Main creates both threads, the avoidance thread reacts to an obstacle in
front and waits, rotating, for its next message; the stroll thread starts its
first turn.
-/
def rotationThenStroll : List Action :=
  [.call .walk .startThd, .main, .main, .main, .main,
    .call .avoidObstacles .startThd, .main, .main, .main, .main] ++
  List.replicate 12 (.avoidObstacles frontInput) ++
  [.walk, .walk]

/-- An obstacle behind. -/
def rearObstacle : AvoidObstacles.ProximityMsg where
  delta := fun sensor => if sensor.val = 3 then 200 else 0

/--
The stroll takes the left motor in the rotation and the right one in the
forward move; the manoeuvre still ends with both motors stopped.
-/
example :
    (run? Steered.step? Steered.boot
      (rotationThenStroll ++ [.walk] ++
        List.replicate 4 (.avoidObstacles ⟨0, rearObstacle⟩) ++
        [.walk] ++
        List.replicate 3 (.avoidObstacles ⟨0, rearObstacle⟩))).map
      (fun state => (state.last .left, state.last .right)) =
    some (some ⟨.avoidObstacles, leftMotorSetSpeed speedStop⟩,
      some ⟨.avoidObstacles, rightMotorSetSpeed speedStop⟩) :=
  rfl

end EPuckTavern.Stroll
