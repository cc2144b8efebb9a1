import Mathlib.Algebra.BigOperators.Group.List.Basic
import EPuckTavern.ProximitySampling

namespace EPuckTavern.Proximity

open Transition

/-!
# What the sensors are calibrated to: `calibrate_ir`

After each message the thread works on the calibration, if there is one.  The
first message after the call only resets the sums, so its values are dropped;
the next hundred are averaged.  A calibration that is called for before the
first message, as in `avoid_obstacles`, thereby drops the one message whose
reflected values have been taken in the dark.
-/

/-- Conversion of an `unsigned int` to `int`. -/
def toInt32 (value : UInt32) : Int :=
  (value.toNat : Int).bmod (2 ^ 32)

/-- `get_prox`, just after `message` has been stored in `prox_values`. -/
def getProx (message : Message) (sensor : Fin 8) : Int :=
  toInt32 (message.toProximityMsg.delta sensor)

/-- The statics of the calibration, with the values it sets. -/
structure Calibration where
  inProgress : Bool
  state : Nat
  numSamples : Nat
  sum : Fin 8 → Int
  initValue : Fin 8 → UInt32

/-- `calibrate_ir`, before it waits for `calibrationInProgress` to clear. -/
def calibrateIr (calibration : Calibration) : Calibration :=
  { calibration with state := 0, inProgress := true }

/-- What `proximity_thd` does after it has published a message. -/
def calibrate (calibration : Calibration) (message : Message) : Calibration :=
  if calibration.inProgress then
    match calibration.state with
    | 0 =>
        { calibration with
          initValue := fun _ => 0
          sum := fun _ => 0
          numSamples := 0
          state := 1 }
    | 1 =>
        let sum := fun sensor =>
          calibration.sum sensor + getProx message sensor
        let numSamples := calibration.numSamples + 1
        if numSamples = 100 then
          { calibration with
            sum := sum
            numSamples := numSamples
            initValue := fun sensor =>
              UInt32.ofInt ((sum sensor).tdiv 100)
            inProgress := false }
        else
          { calibration with sum := sum, numSamples := numSamples }
    | _ => calibration
  else
    calibration

/-- The sum of what a sensor has measured against its ambient light. -/
def total (messages : List Message) (sensor : Fin 8) : Int :=
  (messages.map fun message => getProx message sensor).sum

theorem total_cons
    (message : Message)
    (rest : List Message)
    (sensor : Fin 8) :
    total (message :: rest) sensor =
      getProx message sensor + total rest sensor :=
  List.sum_cons

theorem total_concat
    (messages : List Message)
    (last : Message)
    (sensor : Fin 8) :
    total (messages ++ [last]) sensor =
      total messages sensor + getProx last sensor := by
  rw [total, List.map_append, List.sum_append, List.map_singleton,
    List.sum_singleton, total]

section Steps

variable
  {calibration : Calibration}
  {message : Message}

/-- The first message after the call resets the sums. -/
theorem calibrate_reset
    (inProgress : calibration.inProgress = true)
    (starting : calibration.state = 0) :
    calibrate calibration message =
      ⟨true, 1, 0, fun _ => 0, fun _ => 0⟩ := by
  unfold calibrate
  rw [if_pos inProgress, starting]
  simp only [inProgress]

/-- A message in between is added up and counted. -/
theorem calibrate_add
    (inProgress : calibration.inProgress = true)
    (summing : calibration.state = 1)
    (notLast : calibration.numSamples + 1 ≠ 100) :
    calibrate calibration message =
      { calibration with
        sum := fun sensor =>
          calibration.sum sensor + getProx message sensor
        numSamples := calibration.numSamples + 1 } := by
  unfold calibrate
  rw [if_pos inProgress, summing]
  exact if_neg notLast

/-- The hundredth message added ends the calibration. -/
theorem calibrate_end
    (inProgress : calibration.inProgress = true)
    (summing : calibration.state = 1)
    (last : calibration.numSamples + 1 = 100) :
    (calibrate calibration message).inProgress = false ∧
      ∀ sensor,
        (calibrate calibration message).initValue sensor =
          UInt32.ofInt
            ((calibration.sum sensor + getProx message sensor).tdiv 100) := by
  unfold calibrate
  rw [if_pos inProgress, summing]
  simp only [if_pos last, implies_true, and_self]

end Steps

/-- Run lemma: up to the hundredth message the thread only adds up. -/
theorem foldl_calibrate
    (messages : List Message)
    (calibration : Calibration)
    (inProgress : calibration.inProgress = true)
    (summing : calibration.state = 1)
    (few : calibration.numSamples + messages.length < 100) :
    messages.foldl calibrate calibration =
      { calibration with
        sum := fun sensor =>
          calibration.sum sensor + total messages sensor
        numSamples := calibration.numSamples + messages.length } := by
  induction messages generalizing calibration with
  | nil => simp [total]
  | cons message rest inductionHypothesis =>
      rw [List.length_cons] at few
      have added := @calibrate_add calibration message inProgress summing
        (by omega)
      have later := inductionHypothesis (calibrate calibration message)
        (by rw [added]; exact inProgress) (by rw [added]; exact summing)
        (by rw [added]; simp only; omega)
      rw [List.foldl_cons, later, added]
      simp only [total_cons, List.length_cons, add_assoc, Nat.add_comm 1]

/--
From whatever an earlier calibration has left: `calibrate_ir` waits for
exactly 101 messages, and then the initial value of each sensor is the mean of
the last hundred.
-/
theorem calibrateIr_takes
    (calibration : Calibration)
    (first last : Message)
    (between : List Message)
    (number : between.length = 99)
    (sensor : Fin 8) :
    (∀ messages, messages <+: first :: between →
        (messages.foldl calibrate (calibrateIr calibration)).inProgress =
          true) ∧
      let final := (first :: between ++ [last]).foldl calibrate
        (calibrateIr calibration)
      final.inProgress = false ∧
        final.initValue sensor =
          UInt32.ofInt ((total (between ++ [last]) sensor).tdiv 100) := by
  have summed
      (messages : List Message)
      (few : messages.length < 100) :
      (first :: messages).foldl calibrate (calibrateIr calibration) =
        ⟨true, 1, messages.length, total messages, fun _ => 0⟩ := by
    rw [List.foldl_cons, calibrate_reset rfl rfl,
      foldl_calibrate messages _ rfl rfl (by simpa using few)]
    simp only [zero_add]
  refine ⟨fun messages leading => ?_, ?_⟩
  · cases messages with
    | nil => rfl
    | cons message rest =>
        obtain ⟨rfl, within⟩ := List.cons_prefix_cons.mp leading
        rw [summed rest (by have := within.length_le; omega)]
  · rw [List.foldl_append, summed between (by omega), List.foldl_cons,
      List.foldl_nil, total_concat]
    obtain ⟨ended, averaged⟩ :=
      @calibrate_end ⟨true, 1, between.length, total between, fun _ => 0⟩
        last rfl rfl (by simp only [number])
    exact ⟨ended, averaged sensor⟩

/-- More than one message is the last, those between, and the first. -/
theorem published_split
    {published : List Message}
    (number : published.length = 101) :
    ∃ first between last,
      published.reverse = first :: between ++ [last] ∧
        published.dropLast.reverse = between ++ [last] ∧
        between.length = 99 := by
  obtain ⟨last, older, rfl⟩ :=
    List.exists_cons_of_length_eq_add_one number
  rw [List.length_cons] at number
  obtain ⟨middle, first, rfl⟩ :=
    (List.eq_nil_or_concat older).resolve_left
      (by rintro rfl; simp at number)
  refine ⟨first, middle.reverse, last, ?_, ?_, ?_⟩
  · simp
  · rw [List.concat_eq_append, ← List.cons_append, List.dropLast_concat]
    simp
  · simp at number ⊢
    omega

/--
A calibration called for before the first message ends with message 101, and
each sensor is set to the mean of a hundred values, all of them taken from its
own channel, in the dark and with the pulse of its couple alone.
-/
theorem calibration_proper
    {timer : TimerEvent}
    {state : State}
    (reachable : Reachable step? (proximityStart timer) state)
    (number : state.published.length = 101)
    (calibration : Calibration)
    (sensor : Fin 8) :
    let final :=
      state.published.reverse.foldl calibrate (calibrateIr calibration)
    final.inProgress = false ∧
      final.initValue sensor =
        UInt32.ofInt
          ((total state.published.dropLast.reverse sensor).tdiv 100) ∧
      ∀ message ∈ state.published.dropLast.reverse,
        (message.ambient sensor).channel = irChannel sensor ∧
          (message.ambient sensor).lit = .off ∧
          (message.reflected sensor).channel = irChannel sensor ∧
          (message.reflected sensor).lit = .only (couple sensor) := by
  obtain ⟨first, between, last, all, averaged, ninetyNine⟩ :=
    published_split number
  obtain ⟨-, ended, mean⟩ :=
    calibrateIr_takes calibration first last between ninetyNine sensor
  rw [← all] at ended mean
  rw [← averaged] at mean
  refine ⟨ended, mean, fun message member => ?_⟩
  have sent := (copied_of_reachable reachable).sent message
    (List.mem_reverse.mp member)
  have ambient := sent (.ambient sensor)
  have reflected := sent (.reflected sensor)
  exact ⟨ambient.1, ambient.2 trivial, reflected.1, reflected.2 trivial⟩

/-- A hundred and one rounds of interrupts and copies. -/
def manyRounds : List Action :=
  (List.replicate 101 quietRound).flatten

/-- The state after them, with as many messages. -/
def calibrated : State :=
  (run? step? (proximityStart .reset) manyRounds).getD
    (proximityStart .reset)

theorem calibration_proper_quiet :
    (calibrated.published.reverse.foldl calibrate
      (calibrateIr ⟨false, 0, 0, fun _ => 0, fun _ => 0⟩)).inProgress =
        false := by
  have reachable :
      Reachable step? (proximityStart .reset) calibrated :=
    ⟨manyRounds, run?_eq_some_getD (by decide +kernel)⟩
  have number : calibrated.published.length = 101 := by decide +kernel
  exact (calibration_proper reachable number _ 0).1

end EPuckTavern.Proximity
