import EPuckTavern.ScenarioFlag
import EPuckTavern.WorkerReport

namespace EPuckTavern

open Transition

/-!
# Main and its workers

`Scenario` takes the completion flags as readings and `WorkerProgram` takes
the calls as actions.  Here main makes its calls one by one, and a start
function store by store, while the workers of all three kinds take statements
in between; what main reads is what they have stored, and `color_mode` is what
main has set.  Selector, clock and sensors remain arbitrary.
-/

namespace Scenario

/-- The worker that a call starts. -/
def Call.starts? : Call → Option WorkerId
  | .scanStart => some .scan
  | .beerStart => some .beer
  | .pidDistanceStart => some .pid
  | _ => none

/-- The worker that a call asks to stop. -/
def Call.stops? : Call → Option WorkerId
  | .stopScan => some .scan
  | .stopBeer => some .beer
  | .stopPid => some .pid
  | _ => none

/-- The worker that a wait loop of main waits for. -/
def Pc.awaits? : Pc → Option WorkerId
  | .tavernAwaitColor | .huntAwaitColor => some .scan
  | .tavernAwaitBeer => some .beer
  | .huntAwaitDone => some .pid
  | _ => none

/-- `get_good_color()`, `get_beer_served()` or `get_job_is_done()`. -/
def Reading.done (reading : Reading) : WorkerId → Bool
  | .scan => reading.goodColor
  | .beer => reading.beerServed
  | .pid => reading.jobIsDone

/-- A start of a worker changes no setting. -/
theorem Call.effect_of_starts
    {call : Call}
    {worker : WorkerId}
    (starts : call.starts? = some worker)
    (settings : Settings) :
    call.effect settings = settings := by
  cases call <;> first | rfl | cases starts

/-- A stop of a worker changes no setting. -/
theorem Call.effect_of_stops
    {call : Call}
    {worker : WorkerId}
    (stops : call.stops? = some worker)
    (settings : Settings) :
    call.effect settings = settings := by
  cases call <;> first | rfl | cases stops

/-- States depend on the readings taken so far only. -/
theorem after_congr
    {readings others : Nat → Reading}
    {state : State}
    {count : Nat}
    (same : ∀ earlier < count, readings earlier = others earlier) :
    after readings state count = after others state count := by
  induction count with
  | zero => rfl
  | succ previous inductionHypothesis =>
      have before := inductionHypothesis
        (fun earlier less => same earlier (Nat.lt_succ_of_lt less))
      rw [after, after, before, same previous (Nat.lt_succ_self previous)]

/-- Only calls change what other modules have been set to. -/
theorem control_settings
    (reading : Reading)
    (state : State) :
    (control reading state).settings = state.settings := by
  unfold control
  split <;> first | rfl | (split <;> rfl)

end Scenario

namespace Tavern

open Scenario (Call Settings)

/-- Main, with the calls before its next reading, and the workers. -/
structure State (round : ℚ → ℚ) where
  scenario : Scenario.State
  /-- The first may be the start function that main is in. -/
  pending : List Call
  workers : ∀ worker : WorkerId, WorkerProgram.State (worker.program round)

/-- One atomic step of main or of a worker. -/
inductive Action (round : ℚ → ℚ) where
  /-- Main goes on; at a reading it may find this selector and this time. -/
  | main (selector : Fin 16) (now : Systime)
  | worker
      (worker : WorkerId)
      (index : Nat)
      (input : (worker.program round).Input)

variable {round : ℚ → ℚ}

/-- The static variables of the workers when the robot starts. -/
def bootStatics : ∀ worker : WorkerId, (worker.program round).Statics
  | .scan => ()
  | .beer => ()
  | .pid => PidDistance.Memory.initial

/-- No worker has been created. -/
def boot (round : ℚ → ℚ) : State round where
  scenario := Scenario.boot
  pending := []
  workers worker := WorkerProgram.boot (bootStatics worker)

/-- What a statement reads: `color_mode` is the one of `set_color_mode`. -/
def inputFor
    (settings : Settings) :
    ∀ worker : WorkerId,
      (worker.program round).Input → (worker.program round).Input
  | .scan, input =>
      let outside : Scan.Input := input
      { outside with colorMode := settings.colorMode }
  | .beer, input => input
  | .pid, input => input

namespace State

/-- What main reads: selector, clock, and the flags of the workers. -/
def reading
    (state : State round)
    (selector : Fin 16)
    (now : Systime) : Scenario.Reading where
  selector := selector
  now := now
  goodColor := (state.workers .scan).flags.done
  beerServed := (state.workers .beer).flags.done
  jobIsDone := (state.workers .pid).flags.done

/-- Main takes its next reading and has the calls of that step ahead. -/
def poll
    (state : State round)
    (selector : Fin 16)
    (now : Systime) : State round :=
  { state with
    scenario :=
      Scenario.control (state.reading selector now) state.scenario
    pending := Scenario.calls (state.reading selector now) state.scenario }

/-- Main enters a start function, or goes on in it. -/
def start?
    (state : State round)
    (worker : WorkerId)
    (rest : List Call) : Option (State round) :=
  let action :=
    if (state.workers worker).call.isSome then .caller else .start
  (WorkerProgram.step? (state.workers worker) action).map fun after =>
    { state with
      pending := if after.call.isSome then state.pending else rest
      workers := Function.update state.workers worker after }

/-- Main calls the stop function of a worker. -/
def stop?
    (state : State round)
    (worker : WorkerId)
    (rest : List Call) : Option (State round) :=
  (WorkerProgram.step? (state.workers worker) .stop).map fun after =>
    { state with
      pending := rest
      workers := Function.update state.workers worker after }

/-- A call that sets something in another module. -/
def set
    (state : State round)
    (call : Call)
    (rest : List Call) : State round :=
  { state with
    scenario :=
      { state.scenario with
        settings := call.effect state.scenario.settings }
    pending := rest }

/-- Main makes its next call, or takes its next statement. -/
def mainStep?
    (state : State round)
    (selector : Fin 16)
    (now : Systime) : Option (State round) :=
  match state.pending with
  | [] => some (state.poll selector now)
  | call :: rest =>
      match call.starts?, call.stops? with
      | some worker, _ => state.start? worker rest
      | none, some worker => state.stop? worker rest
      | none, none => some (state.set call rest)

/-- A statement of a worker, with the colour that main has set. -/
def workerStep?
    (state : State round)
    (worker : WorkerId)
    (index : Nat)
    (input : (worker.program round).Input) : Option (State round) :=
  let seen := inputFor state.scenario.settings worker input
  (WorkerProgram.step? (state.workers worker) (.worker index seen)).map
    fun after =>
      { state with
        workers := Function.update state.workers worker after }

/-- Main, with what the calls ahead of it will have set. -/
def settled (state : State round) : Scenario.State :=
  { state.scenario with
    settings :=
      state.pending.foldl Call.effect state.scenario.settings }

end State

/-- A statement of main, or of any worker that has been created. -/
def step? : Step (State round) (Action round)
  | state, .main selector now => state.mainStep? selector now
  | state, .worker worker index input =>
      state.workerStep? worker index input

/-- Every enabled step, by what it does to the state. -/
theorem step?_cases
    {state next : State round}
    {action : Action round}
    (taken : step? state action = some next) :
    (∃ selector now,
        action = .main selector now ∧ state.pending = [] ∧
          next = state.poll selector now) ∨
      (∃ selector now call rest worker after,
        action = .main selector now ∧
          state.pending = call :: rest ∧ call.starts? = some worker ∧
          WorkerProgram.step? (state.workers worker)
              (if (state.workers worker).call.isSome then
                .caller else .start) = some after ∧
          next = { state with
            pending := if after.call.isSome then state.pending else rest
            workers := Function.update state.workers worker after }) ∨
      (∃ selector now call rest worker after,
        action = .main selector now ∧
          state.pending = call :: rest ∧ call.stops? = some worker ∧
          call.starts? = none ∧
          WorkerProgram.step? (state.workers worker) .stop = some after ∧
          next = { state with
            pending := rest
            workers := Function.update state.workers worker after }) ∨
      (∃ selector now call rest,
        action = .main selector now ∧
          state.pending = call :: rest ∧ call.starts? = none ∧
          next = state.set call rest) ∨
      (∃ worker index input after,
        action = .worker worker index input ∧
          WorkerProgram.step? (state.workers worker)
              (.worker index
                (inputFor state.scenario.settings worker input)) =
            some after ∧
          next = { state with
            workers := Function.update state.workers worker after }) := by
  cases action with
  | main selector now =>
      simp only [step?, State.mainStep?] at taken
      cases ahead : state.pending with
      | nil =>
          simp only [ahead, Option.some.injEq] at taken
          exact .inl ⟨selector, now, rfl, rfl, taken.symm⟩
      | cons call rest =>
          simp only [ahead] at taken
          cases starts : call.starts? with
          | some worker =>
              simp only [starts] at taken
              obtain ⟨after, moved, rfl⟩ := Option.map_eq_some_iff.mp taken
              exact .inr (.inl
                ⟨selector, now, call, rest, worker, after, rfl, rfl,
                  starts, moved, by rw [ahead]⟩)
          | none =>
              cases stops : call.stops? with
              | some worker =>
                  simp only [starts, stops] at taken
                  obtain ⟨after, moved, rfl⟩ :=
                    Option.map_eq_some_iff.mp taken
                  exact .inr (.inr (.inl
                    ⟨selector, now, call, rest, worker, after, rfl, rfl,
                      stops, starts, moved, rfl⟩))
              | none =>
                  simp only [starts, stops, Option.some.injEq] at taken
                  exact .inr (.inr (.inr (.inl
                    ⟨selector, now, call, rest, rfl, rfl, starts,
                      taken.symm⟩)))
  | worker worker index input =>
      obtain ⟨after, moved, rfl⟩ := Option.map_eq_some_iff.mp taken
      exact .inr (.inr (.inr (.inr
        ⟨worker, index, input, after, rfl, moved, rfl⟩)))

/-! Seen without its calls in progress, main runs through `Scenario`. -/

/-- With no call left, main moves as it does without workers. -/
theorem settled_poll
    {state : State round}
    {selector : Fin 16}
    {now : Systime}
    (none : state.pending = []) :
    (state.poll selector now).settled =
      Scenario.step (state.reading selector now) state.settled := by
  simp only [State.settled, State.poll, none, List.foldl_nil,
    Scenario.control_settings]
  rfl

/-- Step lemma: a reading is a step of the scenario, all else is none. -/
theorem settled_step
    {state next : State round}
    {action : Action round}
    (taken : step? state action = some next) :
    next.settled = state.settled ∨
      ∃ reading, next.settled = Scenario.step reading state.settled := by
  rcases step?_cases taken with
    ⟨selector, now, -, none, rfl⟩ |
    ⟨_, _, call, rest, worker, after, -, ahead, starts, -, rfl⟩ |
    ⟨_, _, call, rest, worker, after, -, ahead, stops, -, -, rfl⟩ |
    ⟨_, _, call, rest, -, ahead, -, rfl⟩ |
    ⟨worker, index, input, after, -, -, rfl⟩
  · exact .inr ⟨state.reading selector now, settled_poll none⟩
  · left
    cases entered : after.call.isSome
    · simp [State.settled, ahead, Call.effect_of_starts starts]
    · simp [State.settled]
  · left
    simp [State.settled, ahead, Call.effect_of_stops stops]
  · left
    simp [State.settled, State.set, ahead]
  · exact .inl rfl

/-- Refinement: in every interleaving main goes through a scenario run. -/
theorem settled_after
    {state : State round}
    (reachable : Reachable step? (boot round) state) :
    ∃ readings count,
      state.settled = Scenario.after readings Scenario.boot count := by
  obtain ⟨actions, ran⟩ := reachable
  refine @run?_invariant _ _ _
    (fun state : State round =>
      ∃ readings count,
        state.settled = Scenario.after readings Scenario.boot count)
    ?_ _ _ _ ?_ ran
  · rintro state action next ⟨readings, count, settled⟩ taken
    rcases settled_step taken with same | ⟨reading, moved⟩
    · exact ⟨readings, count, same.trans settled⟩
    · refine ⟨Function.update readings count reading, count + 1, ?_⟩
      rw [moved, settled, Scenario.after, Function.update_self]
      congr 1
      refine Scenario.after_congr fun earlier before => ?_
      rw [Function.update_of_ne (Nat.ne_of_lt before)]
  · exact ⟨fun _ => ⟨0, 0, false, false, false⟩, 0, rfl⟩

end Tavern

end EPuckTavern
