import EPuckTavern.Proximity

namespace EPuckTavern.Proximity

open Transition

/-!
# Which light each sample has been taken in

The pulses and the sequence of the ADC run on their own, and only `adc_cb`
keeps them together: from the second sequence on, each place of the sequence
is converted with the pulse on that belongs to it, or with all of them off.
A late thread may mix two sequences in one message, but never two places.
-/

/-- The pulses while place `place` of a sequence is to be converted. -/
def litAt (place : Nat) : Pulses :=
  if place / 2 % 2 = 0 then .off else .only (.ofNat 4 (place / 4))

/-- The samples of a sequence, as far as it has come, in their order. -/
def InPlace (lit : Nat → Pulses) (samples : List Sample) : Prop :=
  ∀ (place : Nat) (sample : Sample),
    samples[place]? = some sample →
    sample.channel = adcgrpcfg2.getD place 0 ∧ sample.lit = lit place

theorem InPlace.append
    {lit : Nat → Pulses}
    {samples : List Sample}
    {first second : Sample}
    (inPlace : InPlace lit samples)
    (firstChannel :
      first.channel = adcgrpcfg2.getD samples.length 0)
    (secondChannel :
      second.channel = adcgrpcfg2.getD (samples.length + 1) 0)
    (firstLit : first.lit = lit samples.length)
    (secondLit : second.lit = lit (samples.length + 1)) :
    InPlace lit (samples ++ [first, second]) := by
  intro place sample found
  rw [List.getElem?_append] at found
  split at found
  · exact inPlace place sample found
  · rename_i beyond
    obtain ⟨offset, rfl⟩ := Nat.exists_eq_add_of_le (Nat.le_of_not_lt beyond)
    rw [Nat.add_sub_cancel_left] at found
    match offset with
    | 0 =>
        cases found
        exact ⟨firstChannel, firstLit⟩
    | 1 =>
        cases found
        exact ⟨secondChannel, secondLit⟩
    | _ + 2 => cases found

/-- After `triggers` triggers of a sequence, once synchronised. -/
def Synchronised (triggers : Nat) (state : State) : Prop :=
  InPlace litAt state.samples ∧
    match state.timer with
    | .reset =>
        state.pulses = .off ∧ state.pulseSeqState = triggers % 8 + 1
    | .trigger =>
        state.pulses = litAt (2 * triggers) ∧
          state.pulseSeqState = (triggers + 1) % 8 + 1
    | .shutdown => state.pulseSeqState = triggers % 8 + 1

/-- Before the first `adc_cb` there is no pulse. -/
def Dark (state : State) : Prop :=
  InPlace (fun _ => .off) state.samples ∧
    state.pulses = .off ∧ state.pulseSeqState = 0

/-- How far the sequence has come, and what the pulses make of it. -/
def InStep (state : State) : Prop :=
  ∃ triggers ≤ 8,
    state.samples.length = 2 * triggers ∧
      (state.timer = .trigger → triggers < 8) ∧
      (state.sequences = 0 ∧ Dark state ∨
        0 < state.sequences ∧ Synchronised triggers state)

/-- The reset puts on the pulse of the couple that is next. -/
theorem pwmResetCb_synchronised
    {triggers : Nat}
    (notFull : triggers < 8) :
    pwmResetCb (triggers % 8 + 1) .off =
      ((triggers + 1) % 8 + 1, litAt (2 * triggers)) := by
  have all :
      ∀ triggers < 8,
        pwmResetCb (triggers % 8 + 1) .off =
          ((triggers + 1) % 8 + 1, litAt (2 * triggers)) := by
    decide
  exact all triggers notFull

/-- Two samples are taken with one trigger. -/
theorem litAt_succ (triggers : Nat) :
    litAt (2 * triggers + 1) = litAt (2 * triggers) := by
  have half : (2 * triggers + 1) / 2 = 2 * triggers / 2 := by omega
  have quarter : (2 * triggers + 1) / 4 = 2 * triggers / 4 := by omega
  rw [litAt, litAt, half, quarter]

theorem inPlace_nil (lit : Nat → Pulses) : InPlace lit [] := by
  intro place sample found
  cases found

/-- Step lemma: timer, ADC and pulses stay in step. -/
theorem inStep_step
    {state next : State}
    {action : Action}
    (inStep : InStep state)
    (taken : step? state action = some next) :
    InStep next := by
  obtain ⟨triggers, few, length, notFull, pulses⟩ := inStep
  rcases step?_cases taken with
    ⟨atReset, room, rfl⟩ |
    ⟨values, atTrigger, rfl⟩ |
    ⟨atShutdown, rfl⟩ |
    ⟨full, rfl⟩ |
    ⟨-, -, rfl⟩ |
    ⟨field, place, rest, -, rfl⟩ |
    ⟨-, rfl⟩
  · have notFull : triggers < 8 := by omega
    refine ⟨triggers, few, length, fun _ => notFull, ?_⟩
    rcases pulses with ⟨cold, inPlace, off, zero⟩ | ⟨warm, inPlace, rest⟩
    · refine .inl ⟨cold, inPlace, ?_, ?_⟩ <;> simp only [zero, pwmResetCb]
      exact off
    · simp only [atReset] at rest
      obtain ⟨off, turn⟩ := rest
      refine .inr ⟨warm, inPlace, ?_⟩
      simp only [off, turn, pwmResetCb_synchronised notFull, and_self]
  · have notFull := notFull atTrigger
    refine ⟨triggers + 1, notFull, ?_, fun impossible => ?_, ?_⟩
    · simp only [List.length_append, length, convert, List.length_cons,
        List.length_nil]
      omega
    · cases impossible
    · rcases pulses with ⟨cold, inPlace, off, zero⟩ | ⟨warm, inPlace, rest⟩
      · exact .inl ⟨cold, inPlace.append rfl rfl off off, off, zero⟩
      · simp only [atTrigger] at rest
        obtain ⟨lit, turn⟩ := rest
        refine .inr ⟨warm, inPlace.append rfl rfl ?_ ?_, turn⟩
        · rw [length]
          exact lit
        · rw [length, litAt_succ]
          exact lit
  · refine ⟨triggers, few, length, fun impossible => ?_, ?_⟩
    · cases impossible
    · rcases pulses with ⟨cold, inPlace, off, zero⟩ | ⟨warm, inPlace, rest⟩
      · exact .inl ⟨cold, inPlace, rfl, zero⟩
      · simp only [atShutdown] at rest
        exact .inr ⟨warm, inPlace, rfl, rest⟩
  · obtain rfl : triggers = 8 := by omega
    refine ⟨0, by omega, rfl, fun _ => by omega,
      .inr ⟨Nat.succ_pos _, inPlace_nil _, ?_⟩⟩
    rcases pulses with ⟨cold, inPlace, off, zero⟩ | ⟨warm, inPlace, rest⟩
    · cases here : state.timer with
      | reset => exact ⟨off, rfl⟩
      | trigger => exact absurd (notFull here) (by omega)
      | shutdown => rfl
    · cases here : state.timer with
      | reset =>
          simp only [here] at rest
          exact ⟨rest.1, rfl⟩
      | trigger => exact absurd (notFull here) (by omega)
      | shutdown => rfl
  · exact ⟨triggers, few, length, notFull, pulses⟩
  · exact ⟨triggers, few, length, notFull, pulses⟩
  · exact ⟨triggers, few, length, notFull, pulses⟩

theorem inStep_start (timer : TimerEvent) :
    InStep (proximityStart timer) :=
  ⟨0, Nat.zero_le 8, rfl, fun _ => by decide,
    .inl ⟨rfl, inPlace_nil _, rfl, rfl⟩⟩

/-- The ADC channels of the sensors IR0 to IR7. -/
def irChannel : Fin 8 → Nat
  | 0 => 12
  | 1 => 13
  | 2 => 14
  | 3 => 15
  | 4 => 9
  | 5 => 8
  | 6 => 10
  | 7 => 11

/-- A couple of sensors shares a pulse: IR0 and IR4, and so on. -/
def couple (sensor : Fin 8) : Fin 4 :=
  .ofNat 4 sensor.val

/-- The ADC channel of the sensor of a field. -/
def Field.channel : Field → Nat
  | .ambient sensor => irChannel sensor
  | .reflected sensor => irChannel sensor

/-- What is to be lit when a field is sampled. -/
def Field.light : Field → Pulses
  | .ambient _ => .off
  | .reflected sensor => .only (couple sensor)

/-- Each assignment of the thread takes its field from the right place. -/
theorem copies_place
    {field : Field}
    {place : Nat}
    (copied : (field, place) ∈ copies) :
    place < 16 ∧ adcgrpcfg2.getD place 0 = field.channel ∧
      litAt place = field.light := by
  have all :
      ∀ pair ∈ copies,
        pair.2 < 16 ∧ adcgrpcfg2.getD pair.2 0 = pair.1.channel ∧
          litAt pair.2 = pair.1.light := by
    decide
  exact all (field, place) copied

/-- Each field is assigned from some sample. -/
theorem copies_complete (field : Field) :
    ∃ place, (field, place) ∈ copies := by
  have ambient :
      ∀ sensor : Fin 8, ∃ place < 16, (.ambient sensor, place) ∈ copies := by
    decide
  have reflected :
      ∀ sensor : Fin 8,
        ∃ place < 16, (.reflected sensor, place) ∈ copies := by
    decide
  cases field with
  | ambient sensor =>
      obtain ⟨place, -, member⟩ := ambient sensor
      exact ⟨place, member⟩
  | reflected sensor =>
      obtain ⟨place, -, member⟩ := reflected sensor
      exact ⟨place, member⟩

/-- A sample of the field's sensor, and in its light once warmed up. -/
def Proper (warm : Prop) (field : Field) (sample : Sample) : Prop :=
  sample.channel = field.channel ∧ (warm → sample.lit = field.light)

/-- `adc2_values` after a sequence; the first one is taken in the dark. -/
def ValuesInPlace (state : State) : Prop :=
  0 < state.sequences →
    ∀ place < 16,
      (state.adc2Values.getD place noSample).channel =
          adcgrpcfg2.getD place 0 ∧
        (1 < state.sequences →
          (state.adc2Values.getD place noSample).lit = litAt place)

theorem getElem?_of_lt
    {samples : List Sample}
    {place : Nat}
    (inRange : place < samples.length) :
    samples[place]? = some (samples.getD place noSample) := by
  rw [List.getD_eq_getElem?_getD, List.getElem?_eq_getElem inRange]
  rfl

/-- A step hands over complete sequences only. -/
theorem valuesInPlace_step
    {state next : State}
    {action : Action}
    (inStep : InStep state)
    (values : ValuesInPlace state)
    (taken : step? state action = some next) :
    ValuesInPlace next := by
  rcases step?_cases taken with
    ⟨-, -, rfl⟩ |
    ⟨pair, -, rfl⟩ |
    ⟨-, rfl⟩ |
    ⟨full, rfl⟩ |
    ⟨-, -, rfl⟩ |
    ⟨field, place, rest, -, rfl⟩ |
    ⟨-, rfl⟩
  · exact values
  · exact values
  · exact values
  · intro _ place inRange
    have found := getElem?_of_lt (full.symm ▸ inRange : place < _)
    obtain ⟨triggers, -, -, -, pulses⟩ := inStep
    rcases pulses with ⟨cold, inPlace, -⟩ | ⟨-, inPlace, -⟩
    · refine ⟨(inPlace place _ found).1, fun warm => ?_⟩
      simp only [cold] at warm
      omega
    · exact ⟨(inPlace place _ found).1, fun _ => (inPlace place _ found).2⟩
  · exact values
  · exact values
  · exact values

/-- What the thread has waited for, copied and sent. -/
structure Copied (state : State) : Prop where
  /-- Each message and each signal has a sequence of its own. -/
  signals :
    state.published.length + state.copying.isSome.toNat +
      state.adc2Ready.toNat ≤ state.sequences
  copied :
    ∀ {rest},
      state.copying = some rest →
      ∃ made,
        copies = made ++ rest ∧
          ∀ pair ∈ made,
            Proper (0 < state.published.length) pair.1
              (state.proxValues.get pair.1)
  sent :
    ∀ message ∈ state.published.dropLast,
      ∀ field, Proper True field (message.get field)

/-- A step of the thread assigns a field its own sample. -/
theorem copied_step
    {state next : State}
    {action : Action}
    (values : ValuesInPlace state)
    (copied : Copied state)
    (taken : step? state action = some next) :
    Copied next := by
  obtain ⟨signals, copied, sent⟩ := copied
  rcases step?_cases taken with
    ⟨-, -, rfl⟩ |
    ⟨pair, -, rfl⟩ |
    ⟨-, rfl⟩ |
    ⟨full, rfl⟩ |
    ⟨idle, ready, rfl⟩ |
    ⟨field, place, rest, copying, rfl⟩ |
    ⟨copying, rfl⟩
  · exact ⟨signals, copied, sent⟩
  · exact ⟨signals, copied, sent⟩
  · exact ⟨signals, copied, sent⟩
  · refine ⟨?_, copied, sent⟩
    have flag := Bool.toNat_le state.adc2Ready
    simp only [Bool.toNat_true]
    omega
  · refine ⟨?_, fun starts => ?_, sent⟩
    · simp only [idle, ready, Option.isSome_none, Bool.toNat_true,
        Bool.toNat_false] at signals
      simp only [Option.isSome_some, Bool.toNat_true, Bool.toNat_false]
      omega
    · cases starts
      exact ⟨[], rfl, fun pair member => (List.not_mem_nil member).elim⟩
  · refine ⟨?_, fun goesOn => ?_, sent⟩
    · simpa only [copying, Option.isSome_some] using signals
    · cases goesOn
      obtain ⟨made, split, proper⟩ := copied copying
      have member : (field, place) ∈ copies := by
        rw [split]
        exact List.mem_append_right made List.mem_cons_self
      obtain ⟨inRange, channel, light⟩ := copies_place member
      simp only [copying, Option.isSome_some, Bool.toNat_true] at signals
      obtain ⟨rightChannel, rightLight⟩ := values (by omega) place inRange
      have now :
          Proper (0 < state.published.length) field
            (state.adc2Values.getD place noSample) :=
        ⟨rightChannel.trans channel,
          fun warm => (rightLight (by omega)).trans light⟩
      refine ⟨made ++ [(field, place)], ?_, fun pair earlier => ?_⟩
      · rw [split, List.append_assoc]
        rfl
      · rw [Message.get_set]
        split
        · rename_i same
          exact same ▸ now
        · rename_i different
          rcases List.mem_append.mp earlier with before | last
          · exact proper pair before
          · rw [List.mem_singleton.mp last] at different
            exact (different rfl).elim
  · refine ⟨?_, fun goesOn => ?_, fun message member => ?_⟩
    · simp only [copying, Option.isSome_some, Bool.toNat_true] at signals
      simp only [List.length_cons, Option.isSome_none, Bool.toNat_false]
      omega
    · cases goesOn
    · obtain ⟨made, split, proper⟩ := copied copying
      rw [List.append_nil] at split
      cases earlier : state.published with
      | nil =>
          rw [earlier] at member
          exact (List.not_mem_nil member).elim
      | cons last older =>
          rw [earlier, List.dropLast_cons_of_ne_nil (by simp)] at member
          rcases List.mem_cons.mp member with rfl | before
          · intro field
            obtain ⟨place, made⟩ := copies_complete field
            have ready := proper _ (split ▸ made)
            exact ⟨ready.1, fun _ => ready.2 (by rw [earlier]; simp)⟩
          · exact sent message (earlier ▸ before)

theorem copied_of_reachable
    {timer : TimerEvent}
    {state : State}
    (reachable : Reachable step? (proximityStart timer) state) :
    Copied state := by
  have all : InStep state ∧ ValuesInPlace state ∧ Copied state := by
    refine @Reachable.invariant _ _ _
      (fun state => InStep state ∧ ValuesInPlace state ∧ Copied state)
      ?_ _ _ ?_ reachable
    · rintro state action next ⟨inStep, values, copied⟩ taken
      exact ⟨inStep_step inStep taken, valuesInPlace_step inStep values taken,
        copied_step values copied taken⟩
    · refine ⟨inStep_start timer, fun impossible => ?_, ?_, ?_, ?_⟩
      · exact absurd impossible (Nat.lt_irrefl 0)
      · exact Nat.le_refl 0
      · intro rest copying
        cases copying
      · intro message member
        cases member
  exact all.2.2

/--
Wherever the timer stood at the start and however late the thread comes: in
each message but the first, the ambient value of every sensor has been
converted from its own channel with all pulses off, and the reflected value
with the pulse of its couple on and no other.
-/
theorem published_proper
    {timer : TimerEvent}
    {state : State}
    (reachable : Reachable step? (proximityStart timer) state)
    (message : Message)
    (later : message ∈ state.published.dropLast)
    (sensor : Fin 8) :
    ((message.ambient sensor).channel = irChannel sensor ∧
        (message.ambient sensor).lit = .off) ∧
      (message.reflected sensor).channel = irChannel sensor ∧
        (message.reflected sensor).lit = .only (couple sensor) := by
  have sent := (copied_of_reachable reachable).sent message later
  have ambient := sent (.ambient sensor)
  have reflected := sent (.reflected sensor)
  exact ⟨⟨ambient.1, ambient.2 trivial⟩, reflected.1, reflected.2 trivial⟩

/-- A period of the timer in which every sensor gives 100. -/
def quietPeriod : List Action :=
  [.reset, .trigger (100, 100), .shutdown]

/-- Eight periods with their `adc_cb`, and the thread up to its next wait. -/
def quietRound : List Action :=
  (List.replicate 8 quietPeriod).flatten ++
    .adcCb :: List.replicate 18 .thread

/-- The state after two rounds. -/
def twoRounds : State :=
  (run? step? (proximityStart .reset) (quietRound ++ quietRound)).getD
    (proximityStart .reset)

theorem reachable_twoRounds :
    Reachable step? (proximityStart .reset) twoRounds :=
  ⟨quietRound ++ quietRound, run?_eq_some_getD (by decide +kernel)⟩

theorem published_proper_twoRounds :
    ∃ message ∈ twoRounds.published,
      (message.reflected 7).lit = .only 3 := by
  have two : 0 < twoRounds.published.dropLast.length := by decide +kernel
  obtain ⟨message, later⟩ := List.exists_mem_of_length_pos two
  exact ⟨message, List.mem_of_mem_dropLast later,
    (published_proper reachable_twoRounds message later 7).2.2⟩

end EPuckTavern.Proximity
