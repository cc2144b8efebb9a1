import Mathlib.Data.BitVec
import EPuckTavern.Transition.Ledger
import EPuckTavern.StepperMotor

namespace EPuckTavern.Stepper

open Transition

/-!
# What the coils of a motor go through

The rotor follows the coils, so the order of the patterns is what the driver
is about: each pattern differs from the one before in one wire, also when the
coils have been off in between or the motor turns back.  The counter follows
the patterns, up to its wrap-around.
-/

/-- The number of wires that differ. -/
def Coils.distance (first second : Coils) : Nat :=
  (first.in1 != second.in1).toNat + (first.in2 != second.in2).toNat +
    (first.in3 != second.in3).toNat + (first.in4 != second.in4).toNat

/-- Two patterns differ in one wire. -/
def OneWire (first second : Coils) : Prop :=
  first.distance second = 1

/-- Both ends of a coil are driven. -/
def Coils.shorted (coils : Coils) : Bool :=
  (coils.in1 && coils.in2) || (coils.in3 && coils.in4)

/-- A row of `step_table` and the one after it differ in one wire. -/
theorem oneWire_next (index : Fin 8) :
    OneWire (stepTable index) (stepTable (index + 1)) := by
  revert index
  unfold OneWire
  decide

/-- A row of `step_table` and the one before it differ in one wire. -/
theorem oneWire_previous (index : Fin 8) :
    OneWire (stepTable index) (stepTable (index - 1)) := by
  revert index
  unfold OneWire
  decide

/-- An interrupt turns the coils off, or moves to a neighbouring row. -/
theorem motor_cases
    (side : Motor)
    (motor : StepperMotor) :
    (motor.direction = .halt ∧
        timerCallback side motor = (motor, update stepHalt)) ∨
      (motor.direction ≠ .halt ∧ ∃ index,
        (index = motor.stepIndex + 1 ∨ index = motor.stepIndex - 1) ∧
          (timerCallback side motor).1.stepIndex = index ∧
          (timerCallback side motor).1.direction = motor.direction ∧
          (timerCallback side motor).2 = update (stepTable index)) := by
  obtain ⟨direction, stepIndex, count⟩ := motor
  cases side <;> cases direction with
  | halt => exact .inl ⟨rfl, rfl⟩
  | forward =>
      refine .inr ⟨by simp, _, ?_, rfl, rfl, rfl⟩
      first
        | exact .inl (mask7_add_one stepIndex)
        | exact .inr (mask7_sub_one stepIndex)
  | backward =>
      refine .inr ⟨by simp, _, ?_, rfl, rfl, rfl⟩
      first
        | exact .inl (mask7_add_one stepIndex)
        | exact .inr (mask7_sub_one stepIndex)

/-- The pattern that a step gives to the coils, unless it turns them off. -/
def energised (side : Motor) (state : State) : Action → List Coils
  | .timer =>
      if state.motor.direction = .halt then
        []
      else
        [state.pads.after (writes side state .timer)]
  | _ => []

/-- Off, or in the pattern of `step_index`. -/
def Positioned (state : State) : Prop :=
  state.pads = stepHalt ∨ state.pads = stepTable state.motor.stepIndex

/-- No store of `motor_set_speed` moves the motor. -/
theorem Store.stepIndex_apply
    (state : State)
    (store : Store) :
    (store.apply state).motor.stepIndex = state.motor.stepIndex := by
  cases store <;> rfl

/-- No store of `motor_set_speed` counts a step. -/
theorem Store.count_apply
    (state : State)
    (store : Store) :
    (store.apply state).motor.count = state.motor.count := by
  cases store <;> rfl

/-- No store of `motor_set_speed` writes to a pad. -/
theorem Store.pads_apply
    (state : State)
    (store : Store) :
    (store.apply state).pads = state.pads := by
  cases store <;> rfl

/-- Each step leaves the pads off or on the row of `step_index`. -/
theorem positioned_step
    {side : Motor}
    {state next : State}
    {action : Action}
    (positioned : Positioned state)
    (taken : step? side state action = some next) :
    Positioned next := by
  rcases step?_cases taken with
    ⟨speed, -, rfl⟩ |
    ⟨index, store, rest, -, current, rfl⟩ |
    ⟨-, rfl⟩ |
    ⟨-, -, rfl⟩ |
    ⟨counterValue, -, rfl⟩
  · exact positioned
  · simpa only [Positioned, store.pads_apply, store.stepIndex_apply]
      using positioned
  · rcases motor_cases side state.motor with
      ⟨-, off⟩ | ⟨-, index, -, moved, -, driven⟩
    · left
      simp only [writes, off, after_update]
    · right
      simp only [writes, moved, driven, after_update]
  · exact .inl rfl
  · exact positioned

/--
The pads are off, or on the row of `step_index`, in every reachable state.
-/
theorem positioned_of_reachable
    {side : Motor}
    {state : State}
    (reachable : Reachable (step? side) motorsInit state) :
    Positioned state :=
  reachable.invariant positioned_step (.inl rfl)

/--
For each motor and every run, with any calls of `motor_set_speed` interleaved
and the power save feature coming and going: each pattern the coils get
differs in exactly one wire from the pattern they got before.
-/
theorem energised_isChain
    (side : Motor)
    (actions : List Action) :
    (stepTable 0 ::
        trace (step? side) (energised side) motorsInit actions).IsChain
      OneWire := by
  refine @trace_isChain _ _ _ (step? side) (energised side) (fun _ => True)
    OneWire (fun state => stepTable state.motor.stepIndex) (by simp) ?_
    motorsInit trivial actions
  intro state action next _ taken
  rcases step?_cases taken with
    ⟨speed, rfl, rfl⟩ |
    ⟨index, store, rest, rfl, current, rfl⟩ |
    ⟨rfl, rfl⟩ |
    ⟨rfl, -, rfl⟩ |
    ⟨counterValue, rfl, rfl⟩
  · exact .inl ⟨rfl, rfl⟩
  · exact .inl ⟨rfl, by simp only [store.stepIndex_apply]⟩
  · rcases motor_cases side state.motor with
      ⟨halted, off⟩ | ⟨moving, index, beside, moved, -, driven⟩
    · left
      simp only [energised, halted, off, ↓reduceIte, and_self]
    · right
      simp only [energised, moving, writes, moved, driven, after_update,
        ↓reduceIte, true_and]
      rcases beside with rfl | rfl
      · exact oneWire_next _
      · exact oneWire_previous _
  · exact .inl ⟨rfl, rfl⟩
  · exact .inl ⟨rfl, rfl⟩

/-- No write of a microstep drives both ends of a coil. -/
theorem not_shorted_of_beside
    (index : Fin 8)
    (pads : Coils)
    (before : pads = stepHalt ∨ pads = stepTable index)
    (target : Fin 8)
    (beside : target = index + 1 ∨ target = index - 1)
    (leading : List (Pad × Bool))
    (made : leading <+: update (stepTable target)) :
    (pads.after leading).shorted = false := by
  have all :
      ∀ index : Fin 8,
        ∀ pads ∈ [stepHalt, stepTable index],
        ∀ target ∈ [index + 1, index - 1],
        ∀ leading ∈ (update (stepTable target)).inits,
          (pads.after leading).shorted = false := by
    decide +kernel
  refine all index pads ?_ target ?_ leading ((List.mem_inits _ _).mpr made)
  · simpa using before
  · simpa using beside

/-- Turning the coils off drives no second end, pad by pad. -/
theorem not_shorted_of_halt
    (index : Fin 8)
    (pads : Coils)
    (before : pads = stepHalt ∨ pads = stepTable index)
    (leading : List (Pad × Bool))
    (made : leading <+: update stepHalt) :
    (pads.after leading).shorted = false := by
  have all :
      ∀ index : Fin 8,
        ∀ pads ∈ [stepHalt, stepTable index],
        ∀ leading ∈ (update stepHalt).inits,
          (pads.after leading).shorted = false := by
    decide +kernel
  refine all index pads ?_ leading ((List.mem_inits _ _).mpr made)
  simpa using before

/--
In every reachable state and after each single pad write of an interrupt, no
coil has both ends driven.
-/
theorem never_shorted
    {side : Motor}
    {state : State}
    {leading trailing : List (Pad × Bool)}
    (reachable : Reachable (step? side) motorsInit state)
    (action : Action)
    (written : writes side state action = leading ++ trailing) :
    (state.pads.after leading).shorted = false := by
  have positioned := positioned_of_reachable reachable
  have made : leading <+: writes side state action := ⟨trailing, written.symm⟩
  cases action with
  | timer =>
      simp only [writes] at made
      rcases motor_cases side state.motor with
        ⟨-, off⟩ | ⟨-, index, beside, -, -, driven⟩
      · rw [off] at made
        exact not_shorted_of_halt _ _ positioned leading made
      · rw [driven] at made
        exact not_shorted_of_beside _ _ positioned index beside leading made
  | channel => exact not_shorted_of_halt _ _ positioned leading made
  | _ =>
      rw [List.prefix_nil.mp made]
      exact not_shorted_of_halt _ _ positioned [] List.nil_prefix

/-- `motor_set_speed(1000)` has stored the direction. -/
def turningForward : State where
  motor := { motorsInit.motor with direction := .forward }
  powerSave := false
  period := 0xFFFF
  pads := stepHalt
  calls := [[.powerSave false, .period 50]]

/-- The first two writes of the first microstep forward. -/
theorem never_shorted_forward :
    (turningForward.pads.after [(.in1, false), (.in2, false)]).shorted =
      false := by
  have reachable :
      Reachable (step? .left) motorsInit turningForward :=
    ⟨[.call 1000, .caller 0], by decide +kernel⟩
  exact @never_shorted .left turningForward _ [(.in3, true), (.in4, false)]
    reachable .timer rfl

/-- The microsteps that a step makes, forward counted as positive. -/
def microsteps (state : State) : Action → List Int
  | .timer =>
      match state.motor.direction with
      | .forward => [1]
      | .backward => [-1]
      | .halt => []
  | _ => []

/-- `step_index` is `count` modulo 8, counted the other way on the right. -/
def Aligned (side : Motor) (motor : StepperMotor) : Prop :=
  match side with
  | .left => motor.stepIndex.val = motor.count.toNat % 8
  | .right => (motor.stepIndex.val + motor.count.toNat) % 8 = 0

/-- The interrupt moves counter and index together. -/
theorem aligned_timerCallback
    {side : Motor}
    {motor : StepperMotor}
    (aligned : Aligned side motor) :
    Aligned side (timerCallback side motor).1 := by
  obtain ⟨direction, stepIndex, count⟩ := motor
  have oneCount : (1 : BitVec 32).toNat = 1 := rfl
  cases side <;> cases direction <;>
    simp only [Aligned, timerCallback, leftMotorTimerCallback,
      rightMotorTimerCallback, BitVec.toNat_add, BitVec.toNat_sub, mask7,
      oneCount] at aligned ⊢ <;>
    omega

/-- The interrupt counts the microstep that it makes. -/
theorem count_timerCallback
    (side : Motor)
    (state : State) :
    (timerCallback side state.motor).1.count =
      state.motor.count +
        ((microsteps state .timer).map (BitVec.ofInt 32)).sum := by
  obtain ⟨⟨direction, stepIndex, count⟩, _, _, _, _⟩ := state
  cases side <;> cases direction <;>
    simp [timerCallback, leftMotorTimerCallback, rightMotorTimerCallback,
      microsteps, BitVec.sub_eq_add_neg]

/-- The row of `step_table` that belongs to a counter. -/
def rowOf (side : Motor) (count : BitVec 32) : Fin 8 :=
  match side with
  | .left => ⟨count.toNat % 8, Nat.mod_lt _ (by decide)⟩
  | .right => ⟨(8 - count.toNat % 8) % 8, Nat.mod_lt _ (by decide)⟩

/-- Aligned with the counter, the index is the row of the counter. -/
theorem stepIndex_of_aligned
    {side : Motor}
    {motor : StepperMotor}
    (aligned : Aligned side motor) :
    motor.stepIndex = rowOf side motor.count := by
  have bound := motor.stepIndex.isLt
  refine Fin.ext ?_
  cases side <;>
    simp only [Aligned, rowOf] at aligned ⊢ <;>
    omega

/-- Without a new position, a step moves counter and coils together. -/
theorem aligned_step
    {side : Motor}
    {state next : State}
    {action : Action}
    (aligned : Aligned side state.motor)
    (noSetPos : ∀ counterValue, action ≠ .setPos counterValue)
    (taken : step? side state action = some next) :
    Aligned side next.motor ∧
      next.motor.count =
        state.motor.count +
          ((microsteps state action).map (BitVec.ofInt 32)).sum := by
  rcases step?_cases taken with
    ⟨speed, rfl, rfl⟩ |
    ⟨index, store, rest, rfl, current, rfl⟩ |
    ⟨rfl, rfl⟩ |
    ⟨rfl, -, rfl⟩ |
    ⟨counterValue, rfl, -⟩
  · exact ⟨aligned, by simp [microsteps]⟩
  · refine ⟨?_, by simp [microsteps, store.count_apply]⟩
    cases side <;>
      simpa only [Aligned, store.count_apply, store.stepIndex_apply]
        using aligned
  · exact ⟨aligned_timerCallback aligned, count_timerCallback side state⟩
  · exact ⟨aligned, by simp [microsteps]⟩
  · exact (noSetPos counterValue rfl).elim

/-- A sum of words is the word of the sum. -/
theorem sum_ofInt (steps : List Int) :
    (steps.map (BitVec.ofInt 32)).sum = BitVec.ofInt 32 steps.sum := by
  induction steps with
  | nil => rfl
  | cons step rest inductionHypothesis =>
      rw [List.map_cons, List.sum_cons, List.sum_cons, inductionHypothesis,
        BitVec.ofInt_add]

/--
For each motor and every run in which no position is set: the counter is the
sum of all microsteps, forward less backward, modulo 2^32, and the coils are
off or have the pattern of the counter modulo 8 on the left motor, and of its
opposite on the right one.
-/
theorem count_eq_microsteps
    {side : Motor}
    {state : State}
    {actions : List Action}
    (noSetPos : ∀ counterValue, .setPos counterValue ∉ actions)
    (ran : run? (step? side) motorsInit actions = some state) :
    state.motor.count =
        BitVec.ofInt 32
          (trace (step? side) microsteps motorsInit actions).sum ∧
      Aligned side state.motor ∧
      (state.pads = stepHalt ∨
        state.pads = stepTable (rowOf side state.motor.count)) := by
  have along :
      Along (step? side)
        (fun _ action => ∀ counterValue, action ≠ .setPos counterValue)
        motorsInit actions := by
    refine along_of_forall_mem ?_ motorsInit
    intro action member _ _ _ counterValue isSet
    exact noSetPos counterValue (isSet ▸ member)
  have initially : Aligned side motorsInit.motor := by
    cases side <;> rfl
  have aligned : Aligned side state.motor := by
    refine @run?_invariant_along _ _ (step? side)
      (fun state => Aligned side state.motor) _ ?_ _ _ _ initially along ran
    exact fun before noSet taken => (aligned_step before noSet taken).1
  have positioned : Positioned state :=
    positioned_of_reachable ⟨actions, ran⟩
  rw [Positioned, stepIndex_of_aligned aligned] at positioned
  refine ⟨?_, aligned, positioned⟩
  have ledger :=
    @run?_ledger_along _ _ _ _ _ (step? side) microsteps
      (fun state => Aligned side state.motor) _
      (fun state => state.motor.count) (BitVec.ofInt 32)
      (fun before noSet taken => (aligned_step before noSet taken).1)
      (fun before noSet taken => (aligned_step before noSet taken).2)
      _ _ _ initially along ran
  rw [sum_ofInt] at ledger
  exact ledger.trans (zero_add _)

/-- Two microsteps back on the right motor, from the first row to the third. -/
theorem count_eq_microsteps_backward :
    ∃ state,
      run? (step? .right) motorsInit
          [.call (-300), .caller 0, .timer, .caller 0, .timer] =
        some state ∧
      state.motor.count = -2 ∧
      (state.pads = stepHalt ∨ state.pads = stepTable 2) := by
  have enabled :
      (run? (step? .right) motorsInit
        [.call (-300), .caller 0, .timer, .caller 0, .timer]).isSome =
          true := by
    decide +kernel
  have ran := Option.eq_some_of_isSome enabled
  obtain ⟨counted, -, coils⟩ := count_eq_microsteps (by simp) ran
  refine ⟨_, ran, counted, ?_⟩
  rw [counted] at coils
  exact coils

end EPuckTavern.Stepper
