import Mathlib.Data.List.Basic
import Mathlib.Data.UInt
import EPuckTavern.AvoidObstacles
import EPuckTavern.Transition.Run

namespace EPuckTavern.Proximity

open Transition
open AvoidObstacles (ProximityMsg proximityNbChannels)

/-!
# The proximity sensors: `proximity.c`

A timer of 800 Hz drives the sampling.  At the start of each of its periods
an interrupt may turn a pulse on, at 260 us the ADC converts the next two
channels of its sequence, and at 300 us another interrupt turns all pulses
off.  A full sequence of the ADC takes eight periods; its interrupt copies the
samples, signals the thread and synchronises the pulses with the sequence.
The thread copies the samples once more, one by one, and publishes them.

The interrupts of a period run before the next period starts.  The thread may
be late by any number of periods.
-/

/-- The pads of the four pulses; each lights two opposite sensors. -/
structure Pulses where
  pulse0 : Bool
  pulse1 : Bool
  pulse2 : Bool
  pulse3 : Bool
  deriving Repr, DecidableEq

/-- All pulses are off. -/
def Pulses.off : Pulses :=
  ⟨false, false, false, false⟩

/-- One pulse is on. -/
def Pulses.only : Fin 4 → Pulses
  | 0 => { Pulses.off with pulse0 := true }
  | 1 => { Pulses.off with pulse1 := true }
  | 2 => { Pulses.off with pulse2 := true }
  | 3 => { Pulses.off with pulse3 := true }

/-- `sqr3`, `sqr2` and `sqr1` of `adcgrpcfg2`: the channels in order. -/
def adcgrpcfg2 : List Nat :=
  [12, 9, 12, 9, 13, 8, 13, 8, 14, 10, 14, 10, 15, 11, 15, 11]

/-- A converted value, with the circumstances it comes from. -/
structure Sample where
  value : UInt32
  channel : Nat
  lit : Pulses
  deriving Repr, DecidableEq

/-- An entry of `proximity_msg_t` that the thread copies. -/
inductive Field where
  | ambient (sensor : Fin proximityNbChannels)
  | reflected (sensor : Fin proximityNbChannels)
  deriving Repr, DecidableEq

/-- The copied part of `proximity_msg_t`. -/
structure Message where
  ambient : Fin proximityNbChannels → Sample
  reflected : Fin proximityNbChannels → Sample

namespace Message

/-- The sample in a field. -/
def get (message : Message) : Field → Sample
  | .ambient sensor => message.ambient sensor
  | .reflected sensor => message.reflected sensor

/-- A message with one field assigned. -/
def set (message : Message) (field : Field) (sample : Sample) : Message :=
  match field with
  | .ambient sensor =>
      { message with
        ambient := fun other =>
          if other = sensor then sample else message.ambient other }
  | .reflected sensor =>
      { message with
        reflected := fun other =>
          if other = sensor then sample else message.reflected other }

/-- `delta`, all that `avoid_obstacles` reads: differences of `unsigned int`. -/
def toProximityMsg (message : Message) : ProximityMsg where
  delta sensor :=
    (message.ambient sensor).value - (message.reflected sensor).value

/-- An assignment changes its own field only. -/
theorem get_set
    (message : Message)
    (field other : Field)
    (sample : Sample) :
    (message.set field sample).get other =
      if other = field then sample else message.get other := by
  cases field <;> cases other <;> simp only [set, get] <;>
    simp only [Field.ambient.injEq, Field.reflected.injEq, reduceCtorEq,
      ↓reduceIte]

end Message

/--
The assignments of `proximity_thd` from `adc2_values`, in order: those of
`ambient[0]` to `ambient[7]`, then those of `reflected[0]` to `reflected[7]`.
-/
def copies : List (Field × Nat) :=
  ((List.finRange proximityNbChannels).map .ambient).zip
      [0, 4, 8, 12, 1, 5, 9, 13] ++
    ((List.finRange proximityNbChannels).map .reflected).zip
      [2, 6, 10, 14, 3, 7, 11, 15]

/-- What the timer does next in its period. -/
inductive TimerEvent where
  | reset
  | trigger
  | shutdown
  deriving Repr, DecidableEq

/-- `pwm_reset_cb`: `pulseSeqState` and the pulses. -/
def pwmResetCb (pulseSeqState : Nat) (pulses : Pulses) : Nat × Pulses :=
  match pulseSeqState with
  | 0 => (0, pulses)
  | 1 => (2, pulses)
  | 2 => (3, { pulses with pulse0 := true })
  | 3 => (4, pulses)
  | 4 => (5, { pulses with pulse1 := true })
  | 5 => (6, pulses)
  | 6 => (7, { pulses with pulse2 := true })
  | 7 => (8, pulses)
  | 8 => (1, { pulses with pulse3 := true })
  | other => (other, pulses)

/-- `pwm_ch1_cb` clears all pulses. -/
def pwmCh1Cb : Pulses :=
  .off

/-- The timer, its interrupt's statics, the ADC, and the thread. -/
structure State where
  timer : TimerEvent
  pulseSeqState : Nat
  pulses : Pulses
  /-- `adc2_proximity_samples`, as far as the sequence has come. -/
  samples : List Sample
  adc2Values : List Sample
  adc2Ready : Bool
  /-- The assignments left to the thread; `none` while it waits. -/
  copying : Option (List (Field × Nat))
  proxValues : Message
  /-- The messages published on the topic, newest first. -/
  published : List Message
  /-- The calls of `adc_cb` so far, for the statements only. -/
  sequences : Nat

/-- What stands where nothing has been sampled. -/
def noSample : Sample :=
  ⟨0, 0, .off⟩

/-- After `proximity_start`, at any place in a period of the timer. -/
def proximityStart (timer : TimerEvent) : State where
  timer := timer
  pulseSeqState := 0
  pulses := .off
  samples := []
  adc2Values := List.replicate 16 noSample
  adc2Ready := false
  copying := none
  proxValues := ⟨fun _ => noSample, fun _ => noSample⟩
  published := []
  sequences := 0

/-- The two conversions of a trigger. -/
def convert (state : State) (values : UInt16 × UInt16) : List Sample :=
  let place := state.samples.length
  [⟨values.1.toUInt32, adcgrpcfg2.getD place 0, state.pulses⟩,
    ⟨values.2.toUInt32, adcgrpcfg2.getD (place + 1) 0, state.pulses⟩]

/-- An interrupt, or a statement of the thread. -/
inductive Action where
  | reset
  | trigger (values : UInt16 × UInt16)
  | shutdown
  | adcCb
  /-- The next statement of `proximity_thd`. -/
  | thread
  deriving Repr, DecidableEq

/-- The interrupts of the timer come in turn; the thread comes when it can. -/
def step? : Step State Action
  | state, .reset =>
      if state.timer = .reset ∧ state.samples.length < 16 then
        let result := pwmResetCb state.pulseSeqState state.pulses
        some { state with
          timer := .trigger
          pulseSeqState := result.1
          pulses := result.2 }
      else
        none
  | state, .trigger values =>
      if state.timer = .trigger then
        some { state with
          timer := .shutdown
          samples := state.samples ++ convert state values }
      else
        none
  | state, .shutdown =>
      if state.timer = .shutdown then
        some { state with timer := .reset, pulses := pwmCh1Cb }
      else
        none
  | state, .adcCb =>
      if state.samples.length = 16 then
        some { state with
          samples := []
          adc2Values := state.samples
          adc2Ready := true
          pulseSeqState := 1
          sequences := state.sequences + 1 }
      else
        none
  | state, .thread =>
      match state.copying with
      | none =>
          if state.adc2Ready then
            some { state with adc2Ready := false, copying := some copies }
          else
            none
      | some ((field, place) :: rest) =>
          some { state with
            proxValues :=
              state.proxValues.set field
                (state.adc2Values.getD place noSample)
            copying := some rest }
      | some [] =>
          some { state with
            published := state.proxValues :: state.published
            copying := none }

/-- Every enabled step, by what it does to the state. -/
theorem step?_cases
    {state next : State}
    {action : Action}
    (taken : step? state action = some next) :
    (state.timer = .reset ∧ state.samples.length < 16 ∧
        next = { state with
          timer := .trigger
          pulseSeqState :=
            (pwmResetCb state.pulseSeqState state.pulses).1
          pulses := (pwmResetCb state.pulseSeqState state.pulses).2 }) ∨
      (∃ values, state.timer = .trigger ∧
        next = { state with
          timer := .shutdown
          samples := state.samples ++ convert state values }) ∨
      (state.timer = .shutdown ∧
        next = { state with timer := .reset, pulses := .off }) ∨
      (state.samples.length = 16 ∧
        next = { state with
          samples := []
          adc2Values := state.samples
          adc2Ready := true
          pulseSeqState := 1
          sequences := state.sequences + 1 }) ∨
      (state.copying = none ∧ state.adc2Ready = true ∧
        next =
          { state with adc2Ready := false, copying := some copies }) ∨
      (∃ field place rest,
        state.copying = some ((field, place) :: rest) ∧
          next = { state with
            proxValues :=
              state.proxValues.set field
                (state.adc2Values.getD place noSample)
            copying := some rest }) ∨
      (state.copying = some [] ∧
        next = { state with
          published := state.proxValues :: state.published
          copying := none }) := by
  cases action with
  | reset =>
      simp only [step?] at taken
      split at taken
      · rename_i both
        cases taken
        exact .inl ⟨both.1, both.2, rfl⟩
      · cases taken
  | trigger values =>
      simp only [step?] at taken
      split at taken
      · rename_i here
        cases taken
        exact .inr (.inl ⟨values, here, rfl⟩)
      · cases taken
  | shutdown =>
      simp only [step?] at taken
      split at taken
      · rename_i here
        cases taken
        exact .inr (.inr (.inl ⟨here, rfl⟩))
      · cases taken
  | adcCb =>
      simp only [step?] at taken
      split at taken
      · rename_i full
        cases taken
        exact .inr (.inr (.inr (.inl ⟨full, rfl⟩)))
      · cases taken
  | thread =>
      simp only [step?] at taken
      split at taken
      · rename_i idle
        split at taken
        · rename_i ready
          cases taken
          exact .inr (.inr (.inr (.inr (.inl ⟨idle, ready, rfl⟩))))
        · cases taken
      · rename_i field place rest copying
        cases taken
        exact .inr (.inr (.inr (.inr (.inr (.inl
          ⟨field, place, rest, copying, rfl⟩)))))
      · rename_i copying
        cases taken
        exact .inr (.inr (.inr (.inr (.inr (.inr ⟨copying, rfl⟩)))))

end EPuckTavern.Proximity
