import EPuckTavern.Tavern

namespace EPuckTavern

open Transition

/-!
# Whose turn it is

Main hands the robot to one worker at a time: it pauses both stroll threads,
starts the worker as the last call before a wait loop, and polls the flag of
that worker until it is up.  The invariant `InTurn` puts each worker at the
control points of main, and it holds in every interleaving.
-/

namespace Scenario

/-- One of the calls to be made starts the worker. -/
def Starts (pending : List Call) (worker : WorkerId) : Prop :=
  ∃ call ∈ pending, call.starts? = some worker

/-- A start is the last call before the next reading. -/
def StartLast : List Call → Prop
  | [] => True
  | call :: rest => (call.starts? = none ∨ rest = []) ∧ StartLast rest

/-- None of the calls to be made stops a worker. -/
def NoStops (pending : List Call) : Prop :=
  ∀ call ∈ pending, call.stops? = none

theorem not_starts_nil
    {worker : WorkerId} :
    ¬ Starts [] worker := by
  rintro ⟨call, member, -⟩
  exact List.not_mem_nil member

theorem StartLast.rest_eq_nil
    {call : Call}
    {rest : List Call}
    {worker : WorkerId}
    (last : StartLast (call :: rest))
    (starts : call.starts? = some worker) :
    rest = [] := by
  rcases last.1 with none | empty
  · rw [none] at starts
    cases starts
  · exact empty

section Steps

variable {reading : Reading} {state : State} {worker : WorkerId}

/-- In a wait loop main goes round as long as the flag is down. -/
theorem waits_of_awaits
    (awaits : state.pc.awaits? = some worker)
    (down : reading.done worker = false) :
    control reading state = state ∧ calls reading state = [] := by
  obtain ⟨pc, _, _, _, _, _⟩ := state
  cases pc <;> cases awaits <;>
    simp_all [control, calls, Reading.done]

/-- A flag that is up ends the wait for it. -/
theorem leaves_of_awaits
    (awaits : state.pc.awaits? = some worker)
    (up : reading.done worker = true) :
    (control reading state).pc.awaits? ≠ some worker := by
  obtain ⟨pc, _, _, _, _, _⟩ := state
  cases pc <;> cases awaits <;>
    simp_all [control, Reading.done, Pc.awaits?]

/-- Main comes to a wait loop with the start of its worker ahead. -/
theorem starts_of_awaits
    (elsewhere : state.pc.awaits? ≠ some worker)
    (awaits : (control reading state).pc.awaits? = some worker) :
    Starts (calls reading state) worker := by
  obtain ⟨pc, _, _, beerTime, _, _⟩ := state
  cases pc with
  | tavernElapsed =>
      by_cases late : timeout reading.now beerTime = true <;>
        simp_all [control, Pc.awaits?, Starts, calls, Call.starts?]
  | tavernAwaitColor =>
      cases found : reading.goodColor <;>
        simp_all [control, Pc.awaits?, Starts, calls, Call.starts?]
  | huntEnter | huntSleepDetection =>
      simp_all [control, Pc.awaits?, Starts, calls, Call.starts?]
  | mainTestTavern | mainTestHunt | tavernTest | tavernStamp
  | tavernAwaitBeer | huntAwaitColor | huntAwaitDone | huntTestSelector
  | huntTestDone =>
      simp only [control] at awaits
      split at awaits <;> simp_all [Pc.awaits?, State.return]
  | _ =>
      simp [control, Pc.awaits?] at awaits

/-- Main starts a worker only on its way to the wait loop for it. -/
theorem awaits_of_starts
    (starts : Starts (calls reading state) worker) :
    (control reading state).pc.awaits? = some worker := by
  obtain ⟨pc, _, _, beerTime, _, _⟩ := state
  cases pc with
  | tavernElapsed =>
      by_cases late : timeout reading.now beerTime = true <;>
        simp_all [control, Pc.awaits?, Starts, calls, Call.starts?]
  | tavernAwaitColor =>
      cases found : reading.goodColor <;>
        simp_all [control, Pc.awaits?, Starts, calls, Call.starts?]
  | huntEnter | huntSleepDetection =>
      simp_all [control, Pc.awaits?, Starts, calls, Call.starts?]
  | _ =>
      simp only [Starts, calls] at starts
      (try split at starts) <;> simp [Call.starts?] at starts

/-- In a wait loop both stroll threads are paused. -/
theorem linked_of_awaits
    (linked : LinkedHere state)
    (awaits : state.pc.awaits? = some worker) :
    Linked false state.settings := by
  obtain ⟨pc, _, _, _, _, _⟩ := state
  cases pc with
  | tavernAwaitColor | tavernAwaitBeer =>
      simp only [LinkedHere] at linked
      exact linked.2.1
  | huntAwaitColor | huntAwaitDone =>
      simp only [LinkedHere] at linked
      exact linked.2
  | _ => cases awaits

/-- Each statement of main starts its worker with its last call. -/
theorem startLast_calls :
    StartLast (calls reading state) := by
  obtain ⟨pc, _, _, _, _, _⟩ := state
  unfold calls
  split <;> (try split) <;> simp [StartLast, Call.starts?]

end Steps

end Scenario

namespace Tavern

open Scenario (Call Starts StartLast NoStops)
open WorkerProgram (AtWork Served Steady)

variable {round : ℚ → ℚ}

/-- How one worker fits a control point of main and the calls ahead. -/
structure InTurn
    (pc : Scenario.Pc)
    (pending : List Call)
    {program : WorkerProgram}
    (worker : WorkerId)
    (report : Report program)
    (system : WorkerProgram.State program) : Prop where
  steady : Steady report system
  /-- Whatever concerns the worker belongs to the wait for it. -/
  own :
    AtWork report system ∨ system.call ≠ none ∨ Starts pending worker →
      pc.awaits? = some worker
  /-- Main does not wait in vain. -/
  served :
    pc.awaits? = some worker →
      Starts pending worker ∨ Served report system
  quiet : AtWork report system → pending = []
  calling :
    system.call ≠ none →
      ∃ call, pending = [call] ∧ call.starts? = some worker

namespace InTurn

variable
  {pc : Scenario.Pc}
  {call : Call}
  {pending rest : List Call}
  {program : WorkerProgram}
  {worker : WorkerId}
  {report : Report program}
  {system after : WorkerProgram.State program}

/-- While any call is ahead nobody is at work. -/
theorem away
    (inTurn : InTurn pc (call :: rest) worker report system) :
    ¬ AtWork report system := fun atWork =>
  List.cons_ne_nil call rest (inTurn.quiet atWork)

/-- Making a call leaves the workers that it does not start in turn. -/
theorem drop
    (inTurn : InTurn pc (call :: rest) worker report system)
    (other : call.starts? ≠ some worker) :
    InTurn pc rest worker report system := by
  have idle : system.call = none := by
    by_contra calling
    obtain ⟨first, same, starts⟩ := inTurn.calling calling
    rw [(List.cons.inj same).1] at other
    exact other starts
  refine ⟨inTurn.steady, ?_, ?_, ?_, ?_⟩
  · rintro (atWork | calling | ⟨later, member, starts⟩)
    · exact (inTurn.away atWork).elim
    · exact (calling idle).elim
    · exact inTurn.own
        (.inr (.inr ⟨later, List.mem_cons_of_mem call member, starts⟩))
  · intro awaits
    rcases inTurn.served awaits with ⟨later, member, starts⟩ | served
    · rcases List.mem_cons.mp member with rfl | member
      · exact (other starts).elim
      · exact .inl ⟨later, member, starts⟩
    · exact .inr served
  · exact fun atWork => (inTurn.away atWork).elim
  · exact fun calling => (calling idle).elim

/-- Main enters the start function of a worker or goes on in it. -/
theorem start
    (inTurn : InTurn pc [call] worker report system)
    (starts : call.starts? = some worker)
    (taken :
      WorkerProgram.step? system
          (if system.call.isSome then .caller else .start) =
        some after) :
    InTurn pc (if after.call.isSome then [call] else []) worker
      report after := by
  have awaits := inTurn.own
    (.inr (.inr ⟨call, List.mem_singleton_self call, starts⟩))
  have steady : Steady report after :=
    WorkerProgram.steady_step inTurn.steady
      (fun _ => inTurn.away) taken
  have goesOn
      (entered : after.call.isSome = true) :
      InTurn pc (if after.call.isSome then [call] else []) worker
        report after := by
    rw [if_pos entered]
    have idle : ¬ AtWork report after := fun atWork => by
      rw [steady.idle_of_atWork atWork] at entered
      cases entered
    exact ⟨steady, fun _ => awaits,
      fun _ => .inl ⟨call, List.mem_singleton_self call, starts⟩,
      fun atWork => (idle atWork).elim, fun _ => ⟨call, rfl, starts⟩⟩
  have returns
      (left : after.call = none)
      (served : Served report after) :
      InTurn pc (if after.call.isSome then [call] else []) worker
        report after := by
    rw [left]
    exact ⟨steady, fun _ => awaits, fun _ => .inr served, fun _ => rfl,
      fun calling => (calling left).elim⟩
  rcases WorkerProgram.step?_cases taken with
    ⟨-, idle, existing, rfl⟩ |
    ⟨-, -, -, rfl⟩ |
    ⟨store, stores, -, -, rfl⟩ |
    ⟨-, -, rfl⟩ |
    ⟨stopped, -⟩ |
    ⟨index, input, thread, stepped, -⟩
  · exact returns idle (inTurn.steady.served_of_thdExist idle existing)
  · exact goesOn rfl
  · exact goesOn rfl
  · refine returns rfl (.inl ⟨system.workers.length, program.entry, ?_,
      Report.atWork_entry⟩)
    simp
  · split at stopped <;> cases stopped
  · split at stepped <;> cases stepped

/-- The stop of a worker that is not at work keeps the turns. -/
theorem stop
    (inTurn : InTurn pc (call :: rest) worker report system)
    (other : call.starts? = none)
    (taken : WorkerProgram.step? system .stop = some after) :
    InTurn pc rest worker report after := by
  have dropped := inTurn.drop (by rw [other]; simp)
  have steady : Steady report after :=
    WorkerProgram.steady_step inTurn.steady (fun _ => inTurn.away) taken
  rcases WorkerProgram.step?_cases taken with
    ⟨impossible, -⟩ | ⟨impossible, -⟩ | ⟨_, _, impossible, -⟩ |
    ⟨impossible, -⟩ | ⟨-, idle, rfl⟩ | ⟨_, _, _, impossible, -⟩
  case inr.inr.inr.inr.inl =>
      exact ⟨steady, dropped.own, dropped.served, dropped.quiet,
        dropped.calling⟩
  all_goals cases impossible

/-- A statement of a worker keeps the turns. -/
theorem workerStep
    (inTurn : InTurn pc pending worker report system)
    {index : Nat}
    {input : program.Input}
    (taken :
      WorkerProgram.step? system (.worker index input) = some after) :
    InTurn pc pending worker report after := by
  have steady : Steady report after :=
    WorkerProgram.steady_step inTurn.steady (by simp) taken
  rcases WorkerProgram.step?_cases taken with
    ⟨impossible, -⟩ | ⟨impossible, -⟩ | ⟨_, _, impossible, -⟩ |
    ⟨impossible, -⟩ | ⟨impossible, -⟩ |
    ⟨place, seen, thread, -, current, alive, rfl⟩
  case inr.inr.inr.inr.inr =>
      have earlier
          (atWork :
            AtWork report
              (WorkerProgram.workerStep system place thread seen)) :
          AtWork report system :=
        (WorkerProgram.atWork_of_workerStep
          inTurn.steady current alive atWork).1
      refine ⟨steady, ?_, ?_, ?_, inTurn.calling⟩
      · rintro (atWork | rest)
        · exact inTurn.own (.inl (earlier atWork))
        · exact inTurn.own (.inr rest)
      · intro awaits
        rcases inTurn.served awaits with starts | served
        · exact .inl starts
        · exact .inr (WorkerProgram.served_workerStep
            inTurn.steady current alive served)
      · exact fun atWork => inTurn.quiet (earlier atWork)
  all_goals cases impossible

/-- Main takes a reading, the flag of this worker among others. -/
theorem poll
    {reading : Scenario.Reading}
    {scenario : Scenario.State}
    (inTurn : InTurn scenario.pc [] worker report system)
    (reads : reading.done worker = system.flags.done) :
    InTurn (Scenario.control reading scenario).pc
      (Scenario.calls reading scenario) worker report system := by
  have idle : system.call = none := by
    by_contra calling
    obtain ⟨call, same, -⟩ := inTurn.calling calling
    cases same
  have waits
      (atWork : AtWork report system) :
      Scenario.control reading scenario = scenario ∧
        Scenario.calls reading scenario = [] :=
    Scenario.waits_of_awaits (inTurn.own (.inl atWork))
      (reads.trans (inTurn.steady.calm atWork).2)
  refine ⟨inTurn.steady, ?_, ?_, ?_, ?_⟩
  · rintro (atWork | calling | starts)
    · rw [(waits atWork).1]
      exact inTurn.own (.inl atWork)
    · exact (calling idle).elim
    · exact Scenario.awaits_of_starts starts
  · intro awaits
    by_cases waiting : scenario.pc.awaits? = some worker
    · rcases inTurn.served waiting with starts | served
      · exact (Scenario.not_starts_nil starts).elim
      · exact .inr served
    · exact .inl (Scenario.starts_of_awaits waiting awaits)
  · exact fun atWork => (waits atWork).2
  · exact fun calling => (calling idle).elim

end InTurn

/-- Every worker is in turn, and main calls as `Scenario` has it. -/
structure Ordered (state : State round) : Prop where
  startLast : StartLast state.pending
  inTurn :
    ∀ worker : WorkerId,
      InTurn state.scenario.pc state.pending worker
        (worker.report round) (state.workers worker)

theorem ordered_boot : Ordered (boot round) where
  startLast := trivial
  inTurn worker := by
    have away :
        ¬ AtWork (worker.report round)
          (WorkerProgram.boot (bootStatics worker)) := by
      rintro ⟨index, thread, found, -⟩
      simp [WorkerProgram.boot] at found
    refine ⟨Steady.boot _, ?_, ?_, ?_, ?_⟩
    · rintro (atWork | calling | starts)
      · exact (away atWork).elim
      · exact (calling rfl).elim
      · exact (Scenario.not_starts_nil starts).elim
    · exact fun awaits => by cases awaits
    · exact fun atWork => (away atWork).elim
    · exact fun calling => (calling rfl).elim

/-- Step lemma: main and workers keep every worker in turn. -/
theorem ordered_step
    {state next : State round}
    {action : Action round}
    (ordered : Ordered state)
    (taken : step? state action = some next) :
    Ordered next := by
  obtain ⟨startLast, inTurn⟩ := ordered
  rcases step?_cases taken with
    ⟨selector, now, -, none, rfl⟩ |
    ⟨_, _, call, rest, worker, after, -, ahead, starts, moved, rfl⟩ |
    ⟨_, _, call, rest, worker, after, -, ahead, -, starts, moved, rfl⟩ |
    ⟨_, _, call, rest, -, ahead, starts, rfl⟩ |
    ⟨worker, index, input, after, -, moved, rfl⟩
  · refine ⟨Scenario.startLast_calls, fun worker => ?_⟩
    have before := inTurn worker
    rw [none] at before
    exact before.poll (by cases worker <;> rfl)
  · rw [ahead] at startLast inTurn
    obtain rfl := startLast.rest_eq_nil starts
    refine ⟨?_, fun other => ?_⟩
    · simp only [ahead]
      split
      · exact startLast
      · trivial
    · by_cases same : other = worker
      · subst same
        simp only [Function.update_self, ahead]
        exact (inTurn other).start starts moved
      · simp only [Function.update_of_ne same, ahead]
        have different : call.starts? ≠ some other := by
          rw [starts]
          exact fun equal => same (Option.some.inj equal).symm
        split
        · exact inTurn other
        · exact (inTurn other).drop different
  · rw [ahead] at startLast inTurn
    refine ⟨startLast.2, fun other => ?_⟩
    by_cases same : other = worker
    · subst same
      simp only [Function.update_self]
      exact (inTurn other).stop starts moved
    · simp only [Function.update_of_ne same]
      exact (inTurn other).drop (by rw [starts]; simp)
  · rw [ahead] at startLast inTurn
    exact ⟨startLast.2,
      fun other => (inTurn other).drop (by rw [starts]; simp)⟩
  · refine ⟨startLast, fun other => ?_⟩
    by_cases same : other = worker
    · subst same
      simp only [Function.update_self]
      exact (inTurn other).workerStep moved
    · simp only [Function.update_of_ne same]
      exact inTurn other

theorem ordered_of_reachable
    {state : State round}
    (reachable : Reachable step? (boot round) state) :
    Ordered state :=
  reachable.invariant ordered_step ordered_boot

/-- Whoever is at work, main waits for it with both threads paused. -/
theorem paused_of_atWork
    {state : State round}
    {worker : WorkerId}
    (reachable : Reachable step? (boot round) state)
    (atWork : AtWork (worker.report round) (state.workers worker)) :
    state.scenario.settings.walk.isPaused = true ∧
      state.scenario.settings.avoidObstacles.isPaused = true := by
  have inTurn := (ordered_of_reachable reachable).inTurn worker
  have awaits := inTurn.own (.inl atWork)
  obtain ⟨readings, count, settled⟩ := settled_after reachable
  have linked := Scenario.linkedHere_after readings count
  rw [← settled] at linked
  have threads := Scenario.linked_of_awaits linked awaits
  simp only [State.settled, inTurn.quiet atWork, List.foldl_nil] at threads
  exact ⟨by rw [threads.walk]; rfl, by rw [threads.avoidObstacles]; rfl⟩

/--
In every interleaving of main with all workers ever created, at most one
worker of the three kinds is at work; main then polls the flag of that worker,
and both stroll threads are paused.
-/
theorem one_at_work
    {state : State round}
    {worker other : WorkerId}
    {index otherIndex : Nat}
    {thread : (worker.program round).Local}
    {otherThread : (other.program round).Local}
    (reachable : Reachable step? (boot round) state)
    (here : (state.workers worker).workers[index]? = some thread)
    (atWork : (worker.report round).AtWork thread)
    (there : (state.workers other).workers[otherIndex]? = some otherThread)
    (alsoAtWork : (other.report round).AtWork otherThread) :
    (other = worker ∧ otherIndex = index) ∧
      (state.scenario.pc.awaits? = some worker ∧ state.pending = []) ∧
      state.scenario.settings.walk.isPaused = true ∧
      state.scenario.settings.avoidObstacles.isPaused = true := by
  have ordered := ordered_of_reachable reachable
  have first := ordered.inTurn worker
  have second := ordered.inTurn other
  have awaits := first.own (.inl ⟨index, thread, here, atWork⟩)
  have alsoAwaits :=
    second.own (.inl ⟨otherIndex, otherThread, there, alsoAtWork⟩)
  obtain rfl : other = worker :=
    Option.some.inj (alsoAwaits.symm.trans awaits)
  refine ⟨⟨rfl, ?_⟩,
    ⟨awaits, first.quiet ⟨index, thread, here, atWork⟩⟩,
    paused_of_atWork reachable ⟨index, thread, here, atWork⟩⟩
  exact first.steady.wellFormed.unique
    ⟨here, atWork.registered⟩ ⟨there, alsoAtWork.registered⟩

/-- The selector stays in the position of the hunt from boot on. -/
def intoHunt (steps : Nat) : List (Action round) :=
  List.replicate steps (.main Scenario.huntModeSelection 0)

/-- Main polls for the first time, and the scan is at its entry. -/
def hunting : State id :=
  (run? step? (boot id) (intoHunt 13)).getD (boot id)

theorem reachable_hunting : Reachable step? (boot id) hunting :=
  ⟨intoHunt 13, run?_eq_some_getD rfl⟩

theorem one_at_work_hunting :
    hunting.scenario.settings.walk.isPaused = true ∧
      hunting.scenario.pc.awaits? = some .scan := by
  have both := @one_at_work id hunting .scan .scan 0 0 Scan.entry Scan.entry
    reachable_hunting rfl (.inl rfl) rfl (.inl rfl)
  exact ⟨both.2.2.1, both.2.1.1⟩

/--
No worker ever takes its `must_stop` branch: main calls the stop functions
only while nobody is at work, and every start takes the request back.
-/
theorem never_stopping
    {state : State round}
    (reachable : Reachable step? (boot round) state)
    (worker : WorkerId)
    (thread : (worker.program round).Local)
    (created : thread ∈ (state.workers worker).workers) :
    ((worker.program round).stage thread).stopping = false :=
  ((ordered_of_reachable reachable).inTurn worker).steady.keptOn
    thread created

/-- The selector stands where `reinit` asks all workers to stop. -/
def reinitialised : List (Action id) :=
  List.replicate 9 (.main (Fin.last 15) 0)

/-- Then the hunt begins, and its scan tests `must_stop`. -/
def reinitialisedHunt : List (Action id) :=
  reinitialised ++ intoHunt 13 ++ [.worker .scan 0 ⟨150, true, true, .autre⟩]

/-- The scan of that hunt looks around. -/
def huntingOn : State id :=
  (run? step? (boot id) reinitialisedHunt).getD (boot id)

/-- It had been asked to stop before it was started, and does not. -/
theorem never_stopping_huntingOn :
    ((run? step? (boot id) reinitialised).any fun state =>
      (state.workers .scan).flags.mustStop) = true ∧
    (huntingOn.workers .scan).workers.length = 1 ∧
    ∀ thread ∈ (huntingOn.workers .scan).workers,
      (Scan.stage thread.pc).stopping = false :=
  ⟨by decide +kernel, by decide +kernel, fun thread created =>
    never_stopping
      (show Reachable step? (boot id) huntingOn from
        ⟨reinitialisedHunt, run?_eq_some_getD (by decide +kernel)⟩)
      .scan thread created⟩

/--
Whenever main has polled a flag that is down, the newest worker of that kind
is at work, can take a step, and has not been asked to stop.
-/
theorem newest_at_work_of_waiting
    {state : State round}
    {worker : WorkerId}
    (reachable : Reachable step? (boot round) state)
    (awaits : state.scenario.pc.awaits? = some worker)
    (polling : state.pending = [])
    (down : (state.workers worker).flags.done = false) :
    ∃ index thread,
      index + 1 = (state.workers worker).workers.length ∧
        (state.workers worker).workers[index]? = some thread ∧
        (worker.report round).AtWork thread ∧
        (state.workers worker).flags.mustStop = false ∧
        ∀ input, (step? state (.worker worker index input)).isSome := by
  have inTurn := (ordered_of_reachable reachable).inTurn worker
  rcases inTurn.served awaits with starts | served
  · rw [polling] at starts
    exact (Scenario.not_starts_nil starts).elim
  rcases served with ⟨index, thread, found, busy⟩ | up
  · have steady := inTurn.steady
    refine ⟨index, thread, ?_, found, busy,
      (steady.calm ⟨index, thread, found, busy⟩).1, fun input => ?_⟩
    · exact (steady.wellFormed.last ⟨found, busy.registered⟩).1
    · have alive := Stage.hasExited_of_registered busy.registered
      simp [step?, State.workerStep?, WorkerProgram.step?, found, alive]
  · exact absurd (down.symm.trans up) (by decide)

theorem newest_at_work_hunting :
    ∃ (index : Nat) (thread : Scan.Local),
      (hunting.workers .scan).workers[index]? = some thread ∧
        Scan.report.AtWork thread := by
  obtain ⟨index, thread, -, found, busy, -⟩ :=
    @newest_at_work_of_waiting id hunting .scan reachable_hunting rfl rfl rfl
  exact ⟨index, thread, found, busy⟩

end Tavern

end EPuckTavern
