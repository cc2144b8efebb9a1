import EPuckTavern.ObstacleFront

namespace EPuckTavern.AvoidObstacles

open Transition

/-!
# How old the message behind a manoeuvre is

The sensor loop goes on after a manoeuvre with the message in hand, and a
message is received only at the head of a pass and in the rotation of a
manoeuvre.  So the first manoeuvre of a pass is decided on fresh data, and any
later one on the message with which the rotation before it has ended.
-/

/-- The thread with a ledger of its manoeuvres. -/
structure Watch where
  listener : Listener
  /-- A manoeuvre has ended since the last message. -/
  stale : Bool
  /-- A manoeuvre has ended in this pass over the sensors. -/
  manoeuvred : Bool
  /-- The message with which the last rotation has ended. -/
  rotatedTo : Option ProximityMsg

namespace Watch

/-- Nothing has been received yet. -/
def entry : Watch where
  listener := .entry
  stale := false
  manoeuvred := false
  rotatedTo := none

/-- A manoeuvre ends with its second stop command. -/
def staleAfter (stale : Bool) : Pc → Bool
  | .topicWait | .turnWait _ => false
  | .endRight _ => true
  | _ => stale

/-- Whether a manoeuvre has ended in this pass. -/
def manoeuvredAfter (manoeuvred : Bool) : Pc → Bool
  | .topicWait => false
  | .endRight _ => true
  | _ => manoeuvred

/-- The message that ended the last rotation. -/
def rotatedToAfter
    (received rotatedTo : Option ProximityMsg) : Pc → Option ProximityMsg
  | .forwardLeft _ => received
  | _ => rotatedTo

/-- A statement of `avoid_obstacles`, with the dates of what it knows. -/
def step? : Step Watch (Bool × Input) :=
  fun state statement =>
    (Listener.step? state.listener statement).map fun next =>
      { listener := next
        stale := staleAfter state.stale state.listener.thread.pc
        manoeuvred :=
          manoeuvredAfter state.manoeuvred state.listener.thread.pc
        rotatedTo :=
          rotatedToAfter state.listener.received state.rotatedTo
            state.listener.thread.pc }

/-- In the sensor loop the ledger says how old the message in hand is. -/
structure Dated
    (stale manoeuvred : Bool)
    (received rotatedTo : Option ProximityMsg) : Prop where
  stale : stale = manoeuvred
  rotatedTo : manoeuvred = true → rotatedTo = received

/-- What the ledger knows at a control point. -/
def Known (state : Watch) : Prop :=
  match state.listener.thread.pc with
  | .testSensor _ =>
      Dated state.stale state.manoeuvred state.listener.received
        state.rotatedTo
  | .stopLeft sensor =>
      triggered state.listener.thread.proxValues sensor.channel = true ∧
        Dated state.stale state.manoeuvred state.listener.received
          state.rotatedTo
  | .forwardRight _ | .sleepForward _ | .endLeft _ | .endRight _ =>
      state.rotatedTo = state.listener.received
  | _ => True

/-- At the next sensor the thread knows what it knew at this one. -/
theorem known_afterSensor
    {sensor : LoopIndex}
    {state : Watch}
    (dated :
      Dated state.stale state.manoeuvred state.listener.received
        state.rotatedTo)
    (here : state.listener.thread.pc = afterSensor sensor) :
    Known state := by
  by_cases more : sensor.val + 1 < proximityNbChannels - 1
  · rw [afterSensor, dif_pos more] at here
    simp only [Known, here]
    exact dated
  · rw [afterSensor, dif_neg more] at here
    simp only [Known, here]

/-- Step lemma: every statement keeps the ledger right. -/
theorem known_step
    {state next : Watch}
    {statement : Bool × Input}
    (known : Known state)
    (taken : step? state statement = some next) :
    Known next := by
  obtain ⟨⟨⟨pc, values, timeAvoid⟩, received⟩, stale, manoeuvred,
    rotatedTo⟩ := state
  obtain ⟨isPaused, input⟩ := statement
  cases taken
  cases pc with
  | testPaused => cases isPaused <;> exact trivial
  | topicWait => exact ⟨rfl, nofun⟩
  | testSensor sensor =>
      cases found : triggered values sensor.channel with
      | true =>
          simp only [Known, AvoidObstacles.step, found, ↓reduceIte]
          exact ⟨trivial, known⟩
      | false =>
          have dated : Dated stale manoeuvred received rotatedTo := known
          refine @known_afterSensor sensor _ dated ?_
          simp [AvoidObstacles.step, found]
  | testRear sensor =>
      cases rear : rearClear values <;>
        simp [Known, AvoidObstacles.step, rear]
  | testFront sensor =>
      by_cases ends :
          (decide (input.clock - timeAvoid > s2st avoidanceDuration) &&
            frontClear values) = true <;>
        simp [Known, AvoidObstacles.step, ends]
  | forwardLeft sensor => exact rfl
  | forwardRight sensor | sleepForward sensor | endLeft sensor =>
      exact known
  | endRight sensor =>
      exact known_afterSensor ⟨rfl, fun _ => known⟩ rfl
  | _ => exact trivial

/-- The ledger's listener is a listener. -/
theorem informed_step
    {state next : Watch}
    {statement : Bool × Input}
    (informed : state.listener.Informed)
    (taken : step? state statement = some next) :
    next.listener.Informed := by
  obtain ⟨listener, heard, rfl⟩ := Option.map_eq_some_iff.mp taken
  exact Listener.informed_step informed heard

end Watch

/--
In every run, with any messages, any clock and any values of `is_paused`:
every manoeuvre is triggered by a sensor value of the message received last.
No manoeuvre has ended since that message exactly when none has ended in the
same pass; and if one has, it is the message with which its rotation ended.
-/
theorem trigger_of_startsManoeuvre
    {statements : List (Bool × Input)}
    {final : Watch}
    {sensor : LoopIndex}
    (ran : run? Watch.step? Watch.entry statements = some final)
    (starts : final.listener.thread.pc = .stopLeft sensor) :
    ∃ message,
      final.listener.received = some message ∧
        triggered message sensor.channel = true ∧
        final.stale = final.manoeuvred ∧
        (final.manoeuvred = true → final.rotatedTo = some message) := by
  have initiallyInformed : Watch.entry.listener.Informed := trivial
  have initiallyKnown : Watch.entry.Known := trivial
  have informed : final.listener.Informed :=
    run?_invariant Watch.informed_step initiallyInformed ran
  have known : final.Known :=
    run?_invariant Watch.known_step initiallyKnown ran
  simp only [Listener.Informed, starts] at informed
  simp only [Watch.Known, starts] at known
  obtain ⟨found, dated⟩ := known
  refine ⟨_, informed, found, dated.stale, fun again => ?_⟩
  rw [dated.rotatedTo again, informed]

/-- `PROXIMITY_SENSOR_3_ID`, as an index of the sensor loop. -/
def sensor3 : LoopIndex :=
  ⟨3, Nat.le_add_left 4 3⟩

/-- Two manoeuvres of one pass, for the two sensors of `frontAndRear`. -/
def twoManoeuvres : List (Bool × Input) :=
  List.replicate 19 (false, ⟨0, frontAndRear⟩)

/-- The second manoeuvre of the pass is about to start. -/
def secondStart : Watch :=
  (run? Watch.step? Watch.entry twoManoeuvres).getD Watch.entry

theorem trigger_at_secondStart :
    ∃ message,
      secondStart.listener.received = some message ∧
        triggered message sensor3.channel = true ∧
        secondStart.stale = secondStart.manoeuvred ∧
        (secondStart.manoeuvred = true →
          secondStart.rotatedTo = some message) :=
  @trigger_of_startsManoeuvre twoManoeuvres secondStart sensor3
    (run?_eq_some_getD rfl) rfl

/-- The second one is decided on the message that the first has left. -/
theorem second_manoeuvre_on_stale_message :
    ¬ ∀ statements final sensor,
      run? Watch.step? Watch.entry statements = some final →
      final.listener.thread.pc = .stopLeft sensor →
      final.stale = false := by
  intro fresh
  have stale := fresh twoManoeuvres secondStart sensor3 rfl rfl
  exact absurd stale (by decide)

end EPuckTavern.AvoidObstacles
