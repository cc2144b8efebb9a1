import Mathlib.Data.Fin.Basic
import EPuckTavern.Platform
import EPuckTavern.Transition.Run

namespace EPuckTavern.Stepper

open Transition

/-!
# The stepper motors: `motors.c`

Each motor has a record, a timer and four pads.  The interrupt of the timer
moves the motor by a microstep, and the channel of the power save feature
turns the coils off before the next one; both run to their end before any
thread goes on.  `motor_set_speed` is a thread's code, so interrupts and other
threads, in calls of their own, come between any two of its stores.
-/

/-- `MOTOR_TIMER_FREQ` [Hz]. -/
def motorTimerFreq : Nat := 100000

/-- `THRESV` [microstep/s]. -/
def thresv : Int := 650

/-- `MOTOR_SPEED_LIMIT` [step/s]. -/
def motorSpeedLimit : Int := 1100

/-- The levels of the pads IN1 to IN4 of a motor. -/
structure Coils where
  in1 : Bool
  in2 : Bool
  in3 : Bool
  in4 : Bool
  deriving Repr, DecidableEq

/-- The pads of a motor. -/
inductive Pad where
  | in1
  | in2
  | in3
  | in4
  deriving Repr, DecidableEq

/-- `palSetPad` or `palClearPad`. -/
def Coils.write (coils : Coils) (write : Pad × Bool) : Coils :=
  match write.1 with
  | .in1 => { coils with in1 := write.2 }
  | .in2 => { coils with in2 := write.2 }
  | .in3 => { coils with in3 := write.2 }
  | .in4 => { coils with in4 := write.2 }

/-- The levels after some writes, one after the other. -/
def Coils.after (coils : Coils) (writes : List (Pad × Bool)) : Coils :=
  writes.foldl Coils.write coils

/-- `step_halt` -/
def stepHalt : Coils :=
  ⟨false, false, false, false⟩

/-- `step_table` -/
def stepTable : Fin 8 → Coils
  | 0 => ⟨true, false, true, false⟩
  | 1 => ⟨false, false, true, false⟩
  | 2 => ⟨false, true, true, false⟩
  | 3 => ⟨false, true, false, false⟩
  | 4 => ⟨false, true, false, true⟩
  | 5 => ⟨false, false, false, true⟩
  | 6 => ⟨true, false, false, true⟩
  | 7 => ⟨true, false, false, false⟩

/-- `right_motor_update` and `left_motor_update`, on the pads of the motor. -/
def update (out : Coils) : List (Pad × Bool) :=
  [(.in1, out.in1), (.in2, out.in2), (.in3, out.in3), (.in4, out.in4)]

/-- After the four writes of an update the pads have its pattern. -/
@[simp] theorem after_update
    (coils out : Coils) :
    coils.after (update out) = out :=
  rfl

/-- `direction` of a motor -/
inductive Direction where
  | halt
  | forward
  | backward
  deriving Repr, DecidableEq

/-- `index & 7` -/
def mask7 (index : Int) : Fin 8 :=
  ⟨(index % 8).toNat, by omega⟩

/-- The next row, modulo the eight of the table. -/
theorem mask7_add_one
    (index : Fin 8) :
    mask7 (index.val + 1) = index + 1 := by
  revert index
  decide

/-- The row before, modulo the eight of the table. -/
theorem mask7_sub_one
    (index : Fin 8) :
    mask7 (index.val - 1) = index - 1 := by
  revert index
  decide

/-- `stepper_motor_s`; `step_index` is always masked with 7. -/
structure StepperMotor where
  direction : Direction
  stepIndex : Fin 8
  /-- `count`, in microsteps. -/
  count : BitVec 32
  deriving Repr, DecidableEq

/-- `right_motor_timer_callback`, with the writes of its `update`. -/
def rightMotorTimerCallback
    (motor : StepperMotor) : StepperMotor × List (Pad × Bool) :=
  match motor.direction with
  | .backward =>
      let i := mask7 (motor.stepIndex.val + 1)
      ({ motor with count := motor.count - 1, stepIndex := i },
        update (stepTable i))
  | .forward =>
      let i := mask7 (motor.stepIndex.val - 1)
      ({ motor with count := motor.count + 1, stepIndex := i },
        update (stepTable i))
  | .halt => (motor, update stepHalt)

/-- `left_motor_timer_callback`: the same with the directions inverted. -/
def leftMotorTimerCallback
    (motor : StepperMotor) : StepperMotor × List (Pad × Bool) :=
  match motor.direction with
  | .forward =>
      let i := mask7 (motor.stepIndex.val + 1)
      ({ motor with count := motor.count + 1, stepIndex := i },
        update (stepTable i))
  | .backward =>
      let i := mask7 (motor.stepIndex.val - 1)
      ({ motor with count := motor.count - 1, stepIndex := i },
        update (stepTable i))
  | .halt => (motor, update stepHalt)

/-- The interrupt of the timer of either motor. -/
def timerCallback (side : Motor) :
    StepperMotor → StepperMotor × List (Pad × Bool) :=
  match side with
  | .left => leftMotorTimerCallback
  | .right => rightMotorTimerCallback

/-- `left_motor_pwm_ch1_cb` and `right_motor_pwm_ch1_cb`. -/
def pwmCh1Cb : List (Pad × Bool) :=
  [(.in1, false), (.in2, false), (.in3, false), (.in4, false)]

/-- The stores that `motor_set_speed` makes outside its locals. -/
inductive Store where
  | direction (towards : Direction)
  /-- `enable_power_save` or `disable_power_save`. -/
  | powerSave (enabled : Bool)
  /-- `pwmChangePeriod` -/
  | period (interval : UInt16)
  deriving Repr, DecidableEq

/-- The speed cut off at `MOTOR_SPEED_LIMIT`. -/
def limitSpeed (speed : Int) : Int :=
  if speed > motorSpeedLimit then
    motorSpeedLimit
  else if speed < -motorSpeedLimit then
    -motorSpeedLimit
  else
    speed

/-- `interval = MOTOR_TIMER_FREQ / speed`, for a speed in microsteps. -/
def intervalFor (speed : Int) : UInt16 :=
  .ofNat (motorTimerFreq / speed.toNat)

/-- `motor_set_speed`, its stores in their order -/
def motorSetSpeed (speed : Int) : List Store :=
  let doubled := limitSpeed speed * 2
  if doubled = 0 then
    [.direction .halt, .powerSave false, .period 1000]
  else if doubled > 0 then
    [.direction .forward, .powerSave (doubled < thresv),
      .period (intervalFor doubled)]
  else
    [.direction .backward, .powerSave (-doubled < thresv),
      .period (intervalFor (-doubled))]

/-- A motor with its timer, its pads and the calls in progress. -/
structure State where
  motor : StepperMotor
  /-- Channel 1 of the timer is enabled, with its notification. -/
  powerSave : Bool
  period : UInt16
  pads : Coils
  /-- What is left of each call of `motor_set_speed` so far. -/
  calls : List (List Store)
  deriving Repr, DecidableEq

/-- After `motors_init`. -/
def motorsInit : State where
  motor := ⟨.halt, mask7 0, 0⟩
  powerSave := false
  period := 0xFFFF
  pads := stepHalt
  calls := []

/-- What a store of `motor_set_speed` does. -/
def Store.apply (state : State) : Store → State
  | .direction towards =>
      { state with motor := { state.motor with direction := towards } }
  | .powerSave enabled => { state with powerSave := enabled }
  | .period interval => { state with period := interval }

/-- A call, one of its stores, or an interrupt. -/
inductive Action where
  /-- A thread calls `left_motor_set_speed` or `right_motor_set_speed`. -/
  | call (speed : Int)
  /-- The next store of a call. -/
  | caller (index : Nat)
  | timer
  | channel
  /-- `left_motor_set_pos` or `right_motor_set_pos`. -/
  | setPos (counterValue : BitVec 32)
  deriving Repr, DecidableEq

/-- The pads that a step writes, in order. -/
def writes (side : Motor) (state : State) : Action → List (Pad × Bool)
  | .timer => (timerCallback side state.motor).2
  | .channel => pwmCh1Cb
  | _ => []

/-- A store of a call, or a whole interrupt. -/
def step? (side : Motor) : Step State Action
  | state, .call speed =>
      some { state with calls := state.calls ++ [motorSetSpeed speed] }
  | state, .caller index =>
      match state.calls[index]? with
      | some (store :: rest) =>
          some { store.apply state with
            calls := state.calls.set index rest }
      | _ => none
  | state, .timer =>
      some { state with
        motor := (timerCallback side state.motor).1
        pads := state.pads.after (writes side state .timer) }
  | state, .channel =>
      if state.powerSave then
        some { state with
          pads := state.pads.after (writes side state .channel) }
      else
        none
  | state, .setPos counterValue =>
      some { state with
        motor := { state.motor with count := counterValue * 2 } }

/-- Every enabled step, by what it does to the state. -/
theorem step?_cases
    {side : Motor}
    {state next : State}
    {action : Action}
    (taken : step? side state action = some next) :
    (∃ speed, action = .call speed ∧
        next =
          { state with calls := state.calls ++ [motorSetSpeed speed] }) ∨
      (∃ index store rest,
        action = .caller index ∧
          state.calls[index]? = some (store :: rest) ∧
          next = { store.apply state with
            calls := state.calls.set index rest }) ∨
      (action = .timer ∧
        next = { state with
          motor := (timerCallback side state.motor).1
          pads := state.pads.after (writes side state .timer) }) ∨
      (action = .channel ∧ state.powerSave = true ∧
        next = { state with pads := stepHalt }) ∨
      (∃ counterValue, action = .setPos counterValue ∧
        next = { state with
          motor := { state.motor with count := counterValue * 2 } }) := by
  cases action with
  | call speed =>
      cases taken
      exact .inl ⟨speed, rfl, rfl⟩
  | caller index =>
      simp only [step?] at taken
      split at taken
      · rename_i store rest current
        cases taken
        exact .inr (.inl ⟨index, store, rest, rfl, current, rfl⟩)
      · cases taken
  | timer =>
      cases taken
      exact .inr (.inr (.inl ⟨rfl, rfl⟩))
  | channel =>
      simp only [step?] at taken
      split at taken
      · rename_i enabled
        cases taken
        exact .inr (.inr (.inr (.inl ⟨rfl, enabled, rfl⟩)))
      · cases taken
  | setPos counterValue =>
      cases taken
      exact .inr (.inr (.inr (.inr ⟨counterValue, rfl, rfl⟩)))

end EPuckTavern.Stepper
