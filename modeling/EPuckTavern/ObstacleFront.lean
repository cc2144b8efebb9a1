import EPuckTavern.AvoidObstacles
import EPuckTavern.Transition.Run

namespace EPuckTavern.AvoidObstacles

open Transition

/-!
# What the robot has seen when it drives forward

The rotation ends when a rear sensor answers, whatever the front sensors say,
or by the timeout, and then only with a free front.  It does not begin at all
if a rear sensor answers in the message that started the manoeuvre.
-/

/-- The thread with the message it has received last. -/
structure Listener where
  thread : Local
  received : Option ProximityMsg

/-- A statement that waits for the next message. -/
def receives : Pc → Bool
  | .topicWait | .turnWait _ => true
  | _ => false

/-- The two statements that set the motors to `AVOIDANCE_SPEED`. -/
def drivesForward : Pc → Bool
  | .forwardLeft _ | .forwardRight _ => true
  | _ => false

namespace Listener

/-- The thread at its first statement, with no message received. -/
def entry : Listener where
  thread := AvoidObstacles.entry
  received := none

/-- A statement of the thread, and the last message that it has received. -/
def step? : Step Listener (Bool × Input) :=
  fun state (isPaused, input) =>
    some {
      thread := step isPaused state.thread input
      received :=
        if receives state.thread.pc then
          some input.message
        else
          state.received
    }

/--
From the receipt of a message on the thread's copy is the message received
last; and it drives forward only with a rear sensor answering or a free front.
-/
def Informed (state : Listener) : Prop :=
  match state.thread.pc with
  | .setup | .readTime | .testPaused | .topicWait | .sleepUntil => True
  | .forwardLeft _ | .forwardRight _ =>
      state.received = some state.thread.proxValues ∧
        (rearClear state.thread.proxValues = false ∨
          frontClear state.thread.proxValues = true)
  | _ => state.received = some state.thread.proxValues

/-- Between two sensors the values are those of the last message. -/
theorem informed_afterSensor
    (sensor : LoopIndex)
    (values : ProximityMsg)
    (timeAvoid : Systime) :
    Informed ⟨⟨afterSensor sensor, values, timeAvoid⟩, some values⟩ := by
  by_cases more : sensor.val + 1 < proximityNbChannels - 1
  · rw [afterSensor, dif_pos more]
    exact rfl
  · rw [afterSensor, dif_neg more]
    exact trivial

/-- Step lemma: every statement keeps the thread informed. -/
theorem informed_step
    {state next : Listener}
    {statement : Bool × Input}
    (informed : Informed state)
    (taken : step? state statement = some next) :
    Informed next := by
  obtain ⟨⟨pc, values, timeAvoid⟩, received⟩ := state
  obtain ⟨isPaused, input⟩ := statement
  cases taken
  cases pc with
  | testPaused => cases isPaused <;> exact trivial
  | topicWait => exact rfl
  | testSensor sensor =>
      obtain rfl : received = some values := informed
      cases found : triggered values sensor.channel with
      | true =>
          simp only [AvoidObstacles.step, found, ↓reduceIte]
          exact rfl
      | false =>
          simp only [AvoidObstacles.step, found, Bool.false_eq_true,
            ↓reduceIte]
          exact informed_afterSensor sensor values timeAvoid
  | testRear sensor =>
      cases rear : rearClear values with
      | true =>
          simp only [Informed, AvoidObstacles.step, rear, ↓reduceIte]
          exact informed
      | false =>
          simp only [Informed, AvoidObstacles.step, rear,
            Bool.false_eq_true, ↓reduceIte]
          exact ⟨informed, .inl trivial⟩
  | testFront sensor =>
      by_cases ends :
          (decide (input.clock - timeAvoid > s2st avoidanceDuration) &&
            frontClear values) = true
      · simp only [Informed, AvoidObstacles.step, ends, ↓reduceIte]
        exact ⟨informed, .inr (Bool.and_eq_true_iff.mp ends).2⟩
      · simp only [Informed, AvoidObstacles.step, ends]
        exact informed
  | turnWait sensor => exact rfl
  | forwardLeft sensor => exact informed
  | forwardRight sensor => exact informed.1
  | endRight sensor =>
      obtain rfl : received = some values := informed
      exact informed_afterSensor sensor values timeAvoid
  | setup | readTime | sleepUntil => exact trivial
  | _ => exact informed

end Listener

/--
In every run, with any messages, any clock and any values of `is_paused`:
whenever the thread sets the motors to `AVOIDANCE_SPEED`, the message received
last shows a rear sensor above the threshold, or a free front.
-/
theorem seen_of_drivesForward
    {statements : List (Bool × Input)}
    {final : Listener}
    (ran : run? Listener.step? Listener.entry statements = some final)
    (forward : drivesForward final.thread.pc = true) :
    ∃ message,
      final.received = some message ∧
        (rearClear message = false ∨ frontClear message = true) := by
  have initially : Listener.entry.Informed := trivial
  have informed : final.Informed :=
    run?_invariant Listener.informed_step initially ran
  cases here : final.thread.pc with
  | forwardLeft sensor =>
      simp only [Listener.Informed, here] at informed
      exact ⟨_, informed⟩
  | forwardRight sensor =>
      simp only [Listener.Informed, here] at informed
      exact ⟨_, informed⟩
  | _ =>
      rw [here] at forward
      cases forward

/-- An obstacle at a front sensor, and one at a rear sensor. -/
def frontAndRear : ProximityMsg where
  delta sensor := if sensor.val = 0 ∨ sensor.val = 3 then 200 else 0

/-- From the start up to the end of a rotation loop that is never entered. -/
def firstManoeuvre : List (Bool × Input) :=
  List.replicate 11 (false, ⟨0, frontAndRear⟩)

/-- The thread drives forward for the first time. -/
def firstDrive : Listener :=
  (run? Listener.step? Listener.entry firstManoeuvre).getD Listener.entry

theorem seen_at_firstDrive :
    ∃ message,
      firstDrive.received = some message ∧
        (rearClear message = false ∨ frontClear message = true) :=
  seen_of_drivesForward (run?_eq_some_getD rfl : _ = some firstDrive) rfl

/-- The clock does not go back. -/
def ClockOrdered (statements : List (Bool × Input)) : Prop :=
  statements.Pairwise fun earlier later =>
    earlier.2.clock ≤ later.2.clock

/-- With a rear sensor answering, it drives towards an obstacle in front. -/
theorem drives_at_front_obstacle :
    ¬ ∀ statements final,
      ClockOrdered statements →
      run? Listener.step? Listener.entry statements = some final →
      drivesForward final.thread.pc = true →
      ∃ message,
        final.received = some message ∧ frontClear message = true := by
  intro free
  have ordered : ClockOrdered firstManoeuvre := by
    unfold ClockOrdered
    decide
  obtain ⟨message, received, clear⟩ :=
    free firstManoeuvre firstDrive ordered rfl rfl
  have seen : firstDrive.received = some frontAndRear := rfl
  rw [seen] at received
  cases received
  exact absurd clear (by decide)

end EPuckTavern.AvoidObstacles
