import EPuckTavern.StepperMotor

namespace EPuckTavern.Stepper

open Transition

/-!
# The speed that a motor has been set to

`motor_set_speed` stores direction, power save and period one after the
other, so calls that overlap can leave the direction of one with the period
of the other.  If no call begins while another one is in progress, the motor
is driven at the last speed asked for, whatever the interrupts do, and the
power save feature turns the coils off within each period.
-/

/-- What the stores of `motor_set_speed` are about. -/
structure Settings where
  direction : Direction
  powerSave : Bool
  period : UInt16
  deriving Repr, DecidableEq

/-- What `motor_set_speed` sets. -/
def State.settings (state : State) : Settings :=
  ⟨state.motor.direction, state.powerSave, state.period⟩

/-- What a store does to the settings. -/
def Settings.set (settings : Settings) : Store → Settings
  | .direction towards => { settings with direction := towards }
  | .powerSave enabled => { settings with powerSave := enabled }
  | .period interval => { settings with period := interval }

/-- A store changes the settings, and they depend on nothing else. -/
theorem settings_apply
    (state : State)
    (store : Store) :
    (store.apply state).settings = state.settings.set store := by
  cases store <;> rfl

/-- At most one call has stores left. -/
def OneOpen : List (List Store) → Prop
  | [] => True
  | call :: later => (call = [] ∧ OneOpen later) ∨ later.flatten = []

/-- No call of `motor_set_speed` is in progress. -/
def Idle (state : State) : Prop :=
  state.calls.flatten = []

instance (state : State) : Decidable (Idle state) :=
  inferInstanceAs (Decidable (_ = _))

/-- Calls that have all returned do not overlap. -/
theorem OneOpen.of_flatten
    {calls : List (List Store)}
    (none : calls.flatten = []) :
    OneOpen calls := by
  cases calls with
  | nil => trivial
  | cons call later =>
      rw [List.flatten_cons, List.append_eq_nil_iff] at none
      exact .inr none.2

theorem OneOpen.append
    {calls : List (List Store)}
    (none : calls.flatten = [])
    (call : List Store) :
    OneOpen (calls ++ [call]) := by
  induction calls with
  | nil => exact .inr rfl
  | cons first later inductionHypothesis =>
      rw [List.flatten_cons, List.append_eq_nil_iff] at none
      exact .inl ⟨none.1, inductionHypothesis none.2⟩

/-- The store taken is the first of those left. -/
theorem OneOpen.take
    {calls : List (List Store)}
    {index : Nat}
    {store : Store}
    {rest : List Store}
    (oneOpen : OneOpen calls)
    (current : calls[index]? = some (store :: rest)) :
    calls.flatten = store :: rest ∧
      (calls.set index rest).flatten = rest ∧
      OneOpen (calls.set index rest) := by
  induction calls generalizing index with
  | nil => simp at current
  | cons call later inductionHypothesis =>
      cases index with
      | zero =>
          obtain rfl : call = store :: rest := by simpa using current
          rcases oneOpen with ⟨impossible, -⟩ | none
          · cases impossible
          · refine ⟨?_, ?_, .inr none⟩ <;>
              simp only [List.set_cons_zero, List.flatten_cons, none,
                List.append_nil]
      | succ index =>
          rw [List.getElem?_cons_succ] at current
          rcases oneOpen with ⟨rfl, oneOpen⟩ | none
          · obtain ⟨before, after, still⟩ :=
              inductionHypothesis oneOpen current
            exact ⟨before, after, .inl ⟨rfl, still⟩⟩
          · have member := List.mem_flatten_of_mem
              (List.mem_of_getElem? current) List.mem_cons_self
            rw [none] at member
            exact (List.not_mem_nil member).elim

/-- The specification: the last speed asked for. -/
def lastSpeed (speed : Option Int) : Action → Option Int
  | .call asked => some asked
  | _ => speed

/-- What the stores for a speed add up to; at first as in `motors_init`. -/
def settingsFor : Option Int → Settings
  | none => motorsInit.settings
  | some speed => (motorSetSpeed speed).foldl Settings.set motorsInit.settings

/-- Every call makes all three stores. -/
theorem foldl_motorSetSpeed
    (speed : Int)
    (settings : Settings) :
    (motorSetSpeed speed).foldl Settings.set settings =
      settingsFor (some speed) := by
  simp only [settingsFor, motorSetSpeed]
  split
  · rfl
  · split <;> rfl

/-- With the stores left to it, the motor is set as asked for last. -/
def Follows (state : State) (speed : Option Int) : Prop :=
  OneOpen state.calls ∧
    state.calls.flatten.foldl Settings.set state.settings =
      settingsFor speed

/-- A call begins while no other one is in progress. -/
def NoOverlap (state : State) (action : Action) : Prop :=
  ∀ speed, action = .call speed → Idle state

/-- Each step brings the settings closer to those of the last speed. -/
theorem follows_step
    {side : Motor}
    {state next : State}
    {speed : Option Int}
    {action : Action}
    (follows : Follows state speed)
    (noOverlap : NoOverlap state action)
    (taken : step? side state action = some next) :
    Follows next (lastSpeed speed action) := by
  obtain ⟨oneOpen, settled⟩ := follows
  rcases step?_cases taken with
    ⟨asked, rfl, rfl⟩ |
    ⟨index, store, rest, rfl, current, rfl⟩ |
    ⟨rfl, rfl⟩ |
    ⟨rfl, -, rfl⟩ |
    ⟨counterValue, rfl, rfl⟩
  · have idle : state.calls.flatten = [] := noOverlap asked rfl
    refine ⟨.append idle _, ?_⟩
    rw [List.flatten_append, idle, List.nil_append, List.flatten_singleton]
    exact foldl_motorSetSpeed asked _
  · obtain ⟨before, after, still⟩ := oneOpen.take current
    refine ⟨still, ?_⟩
    rw [before, List.foldl_cons, ← settings_apply] at settled
    rw [after]
    exact settled
  · refine ⟨oneOpen, ?_⟩
    have same : (timerCallback side state.motor).1.direction =
        state.motor.direction := by
      cases side <;> cases turning : state.motor.direction <;>
        simp only [timerCallback, leftMotorTimerCallback,
          rightMotorTimerCallback, turning]
    simp only [State.settings, same]
    exact settled
  · exact ⟨oneOpen, settled⟩
  · exact ⟨oneOpen, settled⟩

/-- Refinement: a run without overlaps follows the speeds asked for. -/
theorem follows_run
    {side : Motor}
    {state : State}
    {actions : List Action}
    (noOverlap : Along (step? side) NoOverlap motorsInit actions)
    (ran : run? (step? side) motorsInit actions = some state) :
    Follows state (actions.foldl lastSpeed none) := by
  obtain ⟨speed, asked, follows⟩ :=
    @run?_lockstep _ _ _ _ (step? side)
      (fun speed action => some (lastSpeed speed action)) Follows id
      NoOverlap
      (fun follows noOverlap taken =>
        ⟨_, rfl, follows_step follows noOverlap taken⟩)
      motorsInit _ none _ ⟨.of_flatten rfl, rfl⟩ noOverlap ran
  rw [List.map_id, run?_total, Option.some.injEq] at asked
  exact asked ▸ follows

/-- A speed is within the limit on both sides. -/
theorem limitSpeed_bounds (speed : Int) :
    -motorSpeedLimit ≤ limitSpeed speed ∧
      limitSpeed speed ≤ motorSpeedLimit := by
  unfold limitSpeed motorSpeedLimit
  split
  · omega
  · split <;> omega

theorem limitSpeed_pos_iff (speed : Int) :
    0 < limitSpeed speed ↔ 0 < speed := by
  unfold limitSpeed motorSpeedLimit
  split
  · omega
  · split <;> omega

theorem limitSpeed_eq_zero_iff (speed : Int) :
    limitSpeed speed = 0 ↔ speed = 0 := by
  unfold limitSpeed motorSpeedLimit
  split
  · omega
  · split <;> omega

/-- How a period [timer ticks] fits a number of microsteps a second. -/
structure PeriodFits (period : UInt16) (rate : Nat) : Prop where
  /-- The motor is not slower than asked for. -/
  enough : period.toNat * rate ≤ motorTimerFreq
  /-- A tick more would make it slower. -/
  largest : motorTimerFreq < (period.toNat + 1) * rate
  atLeast : 45 ≤ period.toNat
  atMost : period.toNat ≤ 50000

/-- The period of a speed fits its timer, and rounds down. -/
theorem periodFits_intervalFor
    {speed : Int}
    (atLeast : 2 ≤ speed)
    (atMost : speed ≤ 2 * motorSpeedLimit) :
    PeriodFits (intervalFor speed) speed.toNat := by
  obtain ⟨rate, rfl⟩ := Int.eq_ofNat_of_zero_le (by omega : 0 ≤ speed)
  unfold motorSpeedLimit at atMost
  have positive : 0 < rate := by omega
  have most : motorTimerFreq / rate ≤ 50000 := by
    refine Nat.div_le_of_le_mul ?_
    simp only [motorTimerFreq]
    omega
  have least : 45 ≤ motorTimerFreq / rate := by
    rw [Nat.le_div_iff_mul_le positive]
    simp only [motorTimerFreq]
    omega
  have period : (intervalFor rate).toNat = motorTimerFreq / rate := by
    simp only [intervalFor, Int.toNat_natCast, UInt16.toNat_ofNat']
    exact Nat.mod_eq_of_lt (by omega)
  rw [Int.toNat_natCast]
  refine ⟨?_, ?_, period.symm ▸ least, period.symm ▸ most⟩
  · rw [period]
    exact Nat.div_mul_le_self _ _
  · rw [period]
    exact Nat.lt_mul_of_div_lt (Nat.lt_succ_self _) positive

/-- `MOTOR_TIMER_FREQ/THRESV`: when the power save channel fires [ticks]. -/
def powerSaveTick : Nat :=
  motorTimerFreq / thresv.toNat

/-- The motor is driven at `speed` [step/s], as far as the timer allows. -/
structure DrivenAt (speed : Int) (settings : Settings) : Prop where
  direction :
    settings.direction =
      if speed = 0 then .halt
      else if 0 < speed then .forward else .backward
  halted : speed = 0 → settings.period = 1000
  moving :
    speed ≠ 0 →
      PeriodFits settings.period (2 * (limitSpeed speed).natAbs)
  /-- The coils go off within each period, or never. -/
  saving :
    settings.powerSave = true → powerSaveTick < settings.period.toNat

/-- Below `THRESV` the period is longer than the power save tick. -/
theorem PeriodFits.saving
    {period : UInt16}
    {rate : Nat}
    (fits : PeriodFits period rate)
    (slow : (rate : Int) < thresv) :
    powerSaveTick < period.toNat := by
  have tick : powerSaveTick = 153 := rfl
  simp only [thresv] at slow
  have largest := fits.largest
  simp only [motorTimerFreq] at largest
  have bound :=
    Nat.mul_le_mul_left (period.toNat + 1) (by omega : rate ≤ 649)
  omega

/-- The settings of a speed drive the motor at it. -/
theorem drivenAt_settingsFor (speed : Int) :
    DrivenAt speed (settingsFor (some speed)) := by
  obtain ⟨above, below⟩ := limitSpeed_bounds speed
  have positive := limitSpeed_pos_iff speed
  have zero := limitSpeed_eq_zero_iff speed
  rcases lt_trichotomy (limitSpeed speed) 0 with backward | halted | forward
  · have fits := periodFits_intervalFor
      (by omega : 2 ≤ -(limitSpeed speed * 2)) (by omega)
    have rate :
        (-(limitSpeed speed * 2)).toNat =
          2 * (limitSpeed speed).natAbs := by
      omega
    have same :
        settingsFor (some speed) =
          ⟨.backward, decide (-(limitSpeed speed * 2) < thresv),
            intervalFor (-(limitSpeed speed * 2))⟩ := by
      simp only [settingsFor, motorSetSpeed,
        if_neg (by omega : ¬ limitSpeed speed * 2 = 0),
        if_neg (by omega : ¬ limitSpeed speed * 2 > 0)]
      rfl
    rw [same]
    refine ⟨?_, fun none => by omega, fun _ => rate ▸ fits, fun slow => ?_⟩
    · rw [if_neg (by omega), if_neg (by omega)]
    · have slow := of_decide_eq_true slow
      exact fits.saving (by omega)
  · have same : settingsFor (some speed) = ⟨.halt, false, 1000⟩ := by
      simp only [settingsFor, motorSetSpeed,
        if_pos (by omega : limitSpeed speed * 2 = 0)]
      rfl
    rw [same]
    refine ⟨?_, fun _ => rfl, fun some => by omega, fun slow => ?_⟩
    · rw [if_pos (zero.mp halted)]
    · cases slow
  · have fits := periodFits_intervalFor
      (by omega : 2 ≤ limitSpeed speed * 2) (by omega)
    have rate :
        (limitSpeed speed * 2).toNat = 2 * (limitSpeed speed).natAbs := by
      omega
    have same :
        settingsFor (some speed) =
          ⟨.forward, decide (limitSpeed speed * 2 < thresv),
            intervalFor (limitSpeed speed * 2)⟩ := by
      simp only [settingsFor, motorSetSpeed,
        if_neg (by omega : ¬ limitSpeed speed * 2 = 0),
        if_pos (by omega : limitSpeed speed * 2 > 0)]
      rfl
    rw [same]
    refine ⟨?_, fun none => by omega, fun _ => rate ▸ fits, fun slow => ?_⟩
    · rw [if_neg (by omega), if_pos (by omega)]
    · have slow := of_decide_eq_true slow
      exact fits.saving (by omega)

/--
For each motor and every run without overlapping calls: whenever no call is
in progress, the motor is driven at the last speed asked for, cut off at
`MOTOR_SPEED_LIMIT`, and if the power save channel is on it fires before the
period is over.
-/
theorem drivenAt_lastSpeed
    {side : Motor}
    {state : State}
    {actions : List Action}
    {speed : Int}
    (noOverlap : Along (step? side) NoOverlap motorsInit actions)
    (ran : run? (step? side) motorsInit actions = some state)
    (idle : Idle state)
    (asked : actions.foldl lastSpeed none = some speed) :
    DrivenAt speed state.settings := by
  have follows := (follows_run noOverlap ran).2
  rw [show state.calls.flatten = [] from idle, asked] at follows
  rw [show state.settings = _ from follows]
  exact drivenAt_settingsFor speed

/-- A call in three stores, with an interrupt in between. -/
def oneCall (speed : Int) : List Action :=
  [.call speed, .caller 0, .timer, .caller 0, .caller 0]

theorem drivenAt_lastSpeed_slow :
    ∃ state,
      run? (step? .left) motorsInit (oneCall 200) = some state ∧
        powerSaveTick < state.period.toNat := by
  have ran :=
    @run?_eq_some_getD _ _ (step? .left) motorsInit (oneCall 200)
      (by decide +kernel)
  have noOverlap : Along (step? .left) NoOverlap motorsInit (oneCall 200) := by
    refine ⟨fun _ _ => rfl, ?_, ?_, ?_, ?_, trivial⟩ <;>
      exact fun _ isCall => by cases isCall
  exact ⟨_, ran,
    (drivenAt_lastSpeed noOverlap ran (by decide +kernel) rfl).saving
      (by decide +kernel)⟩

/-- A thread stops the motor while another one sets it to 1000. -/
def overlapping : List Action :=
  [.call 0, .call 1000, .caller 0, .caller 1, .caller 1, .caller 1,
    .caller 0, .caller 0]

/-- Overlapping calls can leave a speed that nobody has asked for. -/
theorem overlapping_mixes :
    ∃ state,
      run? (step? .left) motorsInit overlapping = some state ∧
        Idle state ∧
        ¬ DrivenAt 0 state.settings ∧ ¬ DrivenAt 1000 state.settings := by
  have ran :=
    @run?_eq_some_getD _ _ (step? .left) motorsInit overlapping
      (by decide +kernel)
  have mixed :
      ((run? (step? .left) motorsInit overlapping).getD
        motorsInit).settings = ⟨.forward, false, 1000⟩ := by
    decide +kernel
  refine ⟨_, ran, by decide +kernel, ?_, ?_⟩
  · rw [mixed]
    exact fun driven => by cases driven.direction
  · rw [mixed]
    exact fun driven =>
      absurd (driven.moving (by decide)).enough (by decide +kernel)

end EPuckTavern.Stepper
