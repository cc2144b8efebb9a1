import Mathlib.Order.WellFounded
import EPuckTavern.AvoidObstacles
import EPuckTavern.Transition.Run

namespace EPuckTavern.AvoidObstacles

open Transition

/-!
# The pass over one proximity message

From the receipt of a message to the sleep at the end of the loop body, with
any messages in between and any value of `is_paused`.  Up to the first
manoeuvre the message is the one that was received, so the first manoeuvre
answers the lowest-numbered sensor that the loop finds.  The loop stops one
channel short, though, and `abs` does not see the least `int`: an obstacle is
overlooked where no other sensor, on the same side, is found in its place.
-/

/-- The thread right after it has received a message. -/
def beginPass (message : ProximityMsg) (timeAvoid : Systime) : Local where
  pc := .testSensor ⟨0, Nat.succ_pos _⟩
  proxValues := message
  timeAvoid := timeAvoid

/-- A message begins a pass, whether the thread is paused or not. -/
theorem step_topicWait
    (isPaused : Bool)
    (values : ProximityMsg)
    (timeAvoid : Systime)
    (input : Input) :
    step isPaused ⟨.topicWait, values, timeAvoid⟩ input =
      beginPass input.message timeAvoid :=
  rfl

/-- A statement of the pass; it ends with the sensor loop. -/
def passStep? : Step Local (Bool × Input) :=
  fun thread (isPaused, input) =>
    if thread.pc = .sleepUntil then
      none
    else
      some (step isPaused thread input)

/-- The command of a statement, if it issues one. -/
def issued (thread : Local) (_ : Bool × Input) : List MotorCommand :=
  (command? thread.pc).toList

/-- The motor commands that a pass issues within some statements. -/
def passCommands
    (message : ProximityMsg)
    (timeAvoid : Systime)
    (statements : List (Bool × Input)) : List MotorCommand :=
  trace passStep? issued (beginPass message timeAvoid) statements

/-- How a manoeuvre begins that rotates away from the side of a sensor. -/
def turnAway (sensor : Fin proximityNbChannels) : List MotorCommand :=
  let left :=
    if sensor.val < proximityNbHalf then -speedRotation else speedRotation
  [leftMotorSetSpeed speedStop, rightMotorSetSpeed speedStop,
    leftMotorSetSpeed left, rightMotorSetSpeed (-left)]

/-- `|delta|`, the difference being reread as an `int`. -/
def magnitude
    (message : ProximityMsg)
    (sensor : Fin proximityNbChannels) : Nat :=
  (message.delta sensor).toBitVec.toInt.natAbs

/-- `|delta| > PROXIMITY_THRESHOLD`. -/
def Exceeds
    (message : ProximityMsg)
    (sensor : Fin proximityNbChannels) : Prop :=
  proximityThreshold < magnitude message sensor

/-- The lowest-numbered sensor with a property. -/
structure Lowest
    (property : Fin proximityNbChannels → Prop)
    (sensor : Fin proximityNbChannels) : Prop where
  found : property sensor
  lowest : ∀ other < sensor, ¬ property other

/--
The pass over a message first rotates away from the side of the
lowest-numbered sensor above the threshold, given the statements to get there,
and issues no command if there is none.
-/
structure NothingOverlooked (message : ProximityMsg) : Prop where
  answers :
    ∀ {sensor},
      Lowest (Exceeds message) sensor →
      ∀ timeAvoid statements,
        proximityNbChannels + 4 ≤ statements.length →
        turnAway sensor <+: passCommands message timeAvoid statements
  quiet :
    (∀ sensor, ¬ Exceeds message sensor) →
    ∀ timeAvoid statements,
      passCommands message timeAvoid statements = []

/-- The loop comes to the sensor, and its `|delta|` is an `int`. -/
def Found
    (message : ProximityMsg)
    (sensor : Fin proximityNbChannels) : Prop :=
  sensor.val < proximityNbChannels - 1 ∧ Exceeds message sensor ∧
    magnitude message sensor < 2 ^ 31

/--
No sensor is above the threshold, or the lowest-numbered one that the loop
finds is on the side of the lowest-numbered one that is.
-/
def Answerable (message : ProximityMsg) : Prop :=
  (∀ sensor, ¬ Exceeds message sensor) ∨
    ∃ lowest found,
      Lowest (Exceeds message) lowest ∧ Lowest (Found message) found ∧
        (lowest.val < proximityNbHalf ↔ found.val < proximityNbHalf)

/-- The test of the code: `abs` gives `|delta|` where that is an `int`. -/
theorem triggered_iff
    (message : ProximityMsg)
    (sensor : Fin proximityNbChannels) :
    triggered message sensor = true ↔
      Exceeds message sensor ∧ magnitude message sensor < 2 ^ 31 := by
  rw [triggered, decide_eq_true_iff, Exceeds, magnitude, abs]
  generalize (message.delta sensor).toBitVec = value
  by_cases least : value = BitVec.intMin 32
  · subst least
    decide +kernel
  · have notLeast : value.toInt ≠ -2 ^ 31 := by
      intro same
      exact least (BitVec.eq_of_toInt_eq same)
    have low := @BitVec.le_toInt 32 value
    have high := @BitVec.toInt_lt 32 value
    rw [BitVec.toInt_abs_eq_natAbs_of_ne_intMin least]
    omega

/--
Where the loop looks, to be over the threshold and to be found is the same.
-/
theorem found_iff
    (message : ProximityMsg)
    (index : LoopIndex) :
    Found message index.channel ↔
      triggered message index.channel = true := by
  rw [triggered_iff]
  exact and_iff_right index.isLt

/-- In the sensor loop with nothing left to find, or behind it. -/
def Fruitless (thread : Local) : Prop :=
  match thread.pc with
  | .testSensor sensor => ¬ triggersFrom thread.proxValues sensor.val
  | .sleepUntil => True
  | _ => False

/-- A pass with no sensor over the threshold goes on without one. -/
theorem fruitless_step
    {thread next : Local}
    {statement : Bool × Input}
    (fruitless : Fruitless thread)
    (taken : passStep? thread statement = some next) :
    Fruitless next := by
  obtain ⟨pc, values, timeAvoid⟩ := thread
  cases pc with
  | testSensor sensor =>
      have noneLeft : ¬ triggersFrom values sensor.val := fruitless
      have notThis : triggered values sensor.channel = false := by
        by_contra found
        exact noneLeft
          ⟨sensor, Nat.le_refl _, Bool.not_eq_false _ ▸ found⟩
      cases taken
      simp only [step, notThis, Bool.false_eq_true, ↓reduceIte, afterSensor]
      split
      · rintro ⟨later, above, found⟩
        exact noneLeft ⟨later, Nat.le_of_succ_le above, found⟩
      · exact trivial
  | sleepUntil => cases taken
  | _ => exact fruitless.elim

/-- Such a pass issues no command. -/
theorem issued_of_fruitless
    {thread : Local}
    (statement : Bool × Input)
    (fruitless : Fruitless thread) :
    issued thread statement = [] := by
  obtain ⟨pc, values, timeAvoid⟩ := thread
  cases pc with
  | testSensor | sleepUntil => rfl
  | _ => exact fruitless.elim

/-- Run lemma: the sensor loop alone issues no command. -/
theorem passCommands_eq_nil
    {message : ProximityMsg}
    (noneTriggers : ¬ triggersFrom message 0)
    (timeAvoid : Systime)
    (statements : List (Bool × Input)) :
    passCommands message timeAvoid statements = [] := by
  have fruitless : Fruitless (beginPass message timeAvoid) := noneTriggers
  exact trace_eq_nil_of_invariant fruitless_step issued_of_fruitless
    fruitless statements

/-- A manoeuvre begins with its two stops and the rotation. -/
theorem trace_stopLeft
    (sensor : LoopIndex)
    (message : ProximityMsg)
    (timeAvoid : Systime)
    (stopLeft stopRight rotateLeft rotateRight : Bool × Input)
    (rest : List (Bool × Input)) :
    trace passStep? issued ⟨.stopLeft sensor, message, timeAvoid⟩
        (stopLeft :: stopRight :: rotateLeft :: rotateRight :: rest) =
      turnAway sensor.channel ++
        trace passStep? issued
          ⟨.readTimeAvoid sensor, message, timeAvoid⟩ rest :=
  rfl

/-- The loop turns away from the first sensor that it finds. -/
theorem turnAway_prefix_of_triggered
    {sensor : LoopIndex}
    {message : ProximityMsg}
    (found : triggered message sensor.channel = true)
    (timeAvoid : Systime)
    {statements : List (Bool × Input)}
    (enough : 5 ≤ statements.length) :
    turnAway sensor.channel <+:
      trace passStep? issued
        ⟨.testSensor sensor, message, timeAvoid⟩ statements := by
  match statements, enough with
  | test :: stopLeft :: stopRight :: rotateLeft :: rotateRight :: rest, _ =>
      have tested :
          passStep? ⟨.testSensor sensor, message, timeAvoid⟩ test =
            some ⟨.stopLeft sensor, message, timeAvoid⟩ := by
        simp [passStep?, step, found]
      rw [trace_cons_of_step tested, trace_stopLeft]
      exact List.prefix_append _ _

/-- Run lemma: the sensor loop comes to its lowest triggered index. -/
theorem turnAway_prefix
    {message : ProximityMsg}
    {target : LoopIndex}
    (found : triggered message target.channel = true)
    (timeAvoid : Systime)
    {sensor : LoopIndex}
    (ahead : sensor ≤ target)
    (lowest :
      ∀ other : LoopIndex, sensor ≤ other → other < target →
        triggered message other.channel = false)
    {statements : List (Bool × Input)}
    (enough : target.val - sensor.val + 5 ≤ statements.length) :
    turnAway target.channel <+:
      trace passStep? issued
        ⟨.testSensor sensor, message, timeAvoid⟩ statements := by
  induction statements generalizing sensor with
  | nil =>
      exact absurd enough (Nat.not_succ_le_zero _)
  | cons statement rest inductionHypothesis =>
      rcases Fin.eq_or_lt_of_le ahead with rfl | further
      · exact turnAway_prefix_of_triggered found timeAvoid
          (Nat.le_trans (Nat.le_add_left 5 _) enough)
      · have more : sensor.val + 1 < proximityNbChannels - 1 :=
          Nat.lt_of_le_of_lt (Nat.succ_le_of_lt further) target.isLt
        have passed :
            passStep? ⟨.testSensor sensor, message, timeAvoid⟩ statement =
              some ⟨.testSensor ⟨sensor.val + 1, more⟩, message,
                timeAvoid⟩ := by
          have notThis := lowest sensor (Nat.le_refl _) further
          simp only [passStep?, step, notThis, afterSensor, more,
            reduceCtorEq, Bool.false_eq_true, ↓reduceIte, ↓reduceDIte]
        rw [trace_cons_of_step passed]
        refine inductionHypothesis (Nat.succ_le_of_lt further) ?_ ?_
        · exact fun other above before =>
            lowest other (Nat.le_of_succ_le above) before
        · simp only [List.length_cons] at enough
          have below : sensor.val < target.val := further
          simp only
          omega

/-- Where a sensor has a property, one of them is the lowest-numbered. -/
theorem exists_lowest
    {property : Fin proximityNbChannels → Prop}
    {sensor : Fin proximityNbChannels}
    (found : property sensor) :
    ∃ lowest, Lowest property lowest := by
  obtain ⟨lowest, isFound, least⟩ :=
    WellFounded.has_min (measure Fin.val).wf {other | property other}
      ⟨sensor, found⟩
  exact ⟨lowest, isFound, fun other before isOther =>
    least other isOther before⟩

/-- There is one lowest sensor with a property. -/
theorem Lowest.unique
    {property : Fin proximityNbChannels → Prop}
    {sensor other : Fin proximityNbChannels}
    (lowest : Lowest property sensor)
    (alsoLowest : Lowest property other) :
    sensor = other := by
  rcases lt_trichotomy sensor other with below | same | above
  · exact (alsoLowest.lowest sensor below lowest.found).elim
  · exact same
  · exact (lowest.lowest other above alsoLowest.found).elim

/-- The first manoeuvre answers the lowest-numbered sensor of the loop. -/
theorem turnAway_of_found
    {message : ProximityMsg}
    {sensor : Fin proximityNbChannels}
    (lowest : Lowest (Found message) sensor)
    (timeAvoid : Systime)
    {statements : List (Bool × Input)}
    (enough : proximityNbChannels + 4 ≤ statements.length) :
    turnAway sensor <+: passCommands message timeAvoid statements := by
  let target : LoopIndex := ⟨sensor.val, lowest.found.1⟩
  have below :
      ∀ other : LoopIndex, 0 ≤ other.val → other < target →
        triggered message other.channel = false := by
    intro other _ before
    rw [← Bool.not_eq_true, ← found_iff]
    exact lowest.lowest _ before
  exact turnAway_prefix ((found_iff message target).mp lowest.found)
    timeAvoid (Nat.zero_le _) below (by simp only [target]; omega)

/-- A message with nothing in it leads to no command. -/
theorem passCommands_eq_nil_of_not_found
    {message : ProximityMsg}
    (nothing : ∀ sensor, ¬ Found message sensor)
    (timeAvoid : Systime)
    (statements : List (Bool × Input)) :
    passCommands message timeAvoid statements = [] := by
  refine passCommands_eq_nil ?_ timeAvoid statements
  rintro ⟨index, -, isTriggered⟩
  exact nothing _ ((found_iff message index).mpr isTriggered)

/-- Two manoeuvres begin alike exactly when they turn to the same side. -/
theorem turnAway_eq_iff
    (sensor other : Fin proximityNbChannels) :
    turnAway sensor = turnAway other ↔
      (sensor.val < proximityNbHalf ↔ other.val < proximityNbHalf) := by
  revert sensor other
  decide

/--
For every message: nothing in it is overlooked exactly when no sensor is above
the threshold, or the loop finds one on the side of the lowest-numbered one.
-/
theorem nothingOverlooked_iff
    (message : ProximityMsg) :
    NothingOverlooked message ↔ Answerable message := by
  constructor
  · intro nothingOverlooked
    by_cases clear : ∀ sensor, ¬ Exceeds message sensor
    · exact .inl clear
    · obtain ⟨sensor, exceeds⟩ := not_forall_not.mp clear
      obtain ⟨lowest, isLowest⟩ := exists_lowest exceeds
      have answered :=
        nothingOverlooked.answers isLowest 0
          (List.replicate 12 (false, ⟨0, message⟩)) (Nat.le_refl 12)
      by_cases nothing : ∀ sensor, ¬ Found message sensor
      · rw [passCommands_eq_nil_of_not_found nothing] at answered
        exact absurd (List.prefix_nil.mp answered) (List.cons_ne_nil _ _)
      · obtain ⟨other, isFound⟩ := not_forall_not.mp nothing
        obtain ⟨found, firstFound⟩ := exists_lowest isFound
        have turned :
            turnAway found <+:
              passCommands message 0
                (List.replicate 12 (false, ⟨0, message⟩)) :=
          turnAway_of_found firstFound 0 (Nat.le_refl 12)
        have same :=
          (List.prefix_of_prefix_length_le answered turned
            (Nat.le_refl 4)).eq_of_length rfl
        exact .inr ⟨lowest, found, isLowest, firstFound,
          (turnAway_eq_iff lowest found).mp same⟩
  · rintro (clear | ⟨lowest, found, isLowest, firstFound, sameSide⟩)
    · refine ⟨fun isLowest => (clear _ isLowest.found).elim, fun _ => ?_⟩
      exact passCommands_eq_nil_of_not_found
        fun sensor found => clear sensor found.2.1
    · refine ⟨fun {sensor} also timeAvoid statements enough => ?_,
        fun clear => (clear lowest isLowest.found).elim⟩
      rw [also.unique isLowest, (turnAway_eq_iff lowest found).mpr sameSide]
      exact turnAway_of_found firstFound timeAvoid enough

/-- An obstacle in front of sensor 7 only. -/
def lastOnly : ProximityMsg where
  delta sensor := if sensor.val = 7 then 200 else 0

/-- An obstacle that only sensor 7 sees is overlooked. -/
theorem last_sensor_overlooked :
    ¬ ∀ message, NothingOverlooked message := by
  intro nothingOverlooked
  have lowest : Lowest (Exceeds lastOnly) (Fin.last _) := by
    refine ⟨by unfold Exceeds; decide, fun other before => ?_⟩
    revert other
    unfold Exceeds
    decide
  have answered :=
    (nothingOverlooked lastOnly).answers lowest 0
      (List.replicate 12 (false, ⟨0, lastOnly⟩)) (Nat.le_refl 12)
  have nothing :
      passCommands lastOnly 0
        (List.replicate 12 (false, ⟨0, lastOnly⟩)) = [] := by
    decide
  rw [nothing] at answered
  exact absurd (List.prefix_nil.mp answered) (List.cons_ne_nil _ _)

end EPuckTavern.AvoidObstacles
