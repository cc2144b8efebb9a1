import EPuckTavern.WorkerRegister

namespace EPuckTavern

open Transition

/-!
# What the completion flag says about the workers

A worker raises its completion flag once, after its last test of `must_stop`,
and then leaves.  It is at work until the flag is up.  If nobody asks a worker
to stop while it is at work, then the flag is down exactly as long as the
newest worker is at work, and no worker ever takes its `must_stop` branch.
-/

/-- No start raises the flag of a job. -/
theorem FlagStore.done_apply
    {flags : WorkerFlags}
    (store : FlagStore)
    (down : flags.done = false) :
    (store.apply flags).done = false := by
  cases store with
  | thdExist => exact down
  | mustStop => exact down
  | done => rfl

/-- A thread in its loop is registered. -/
theorem Stage.registered_of_running
    {stage : Stage}
    (running : stage = .running) :
    stage.registered = true := by
  rw [running]
  rfl

/-- A thread that is registered is not gone. -/
theorem Stage.hasExited_of_registered
    {stage : Stage}
    (isRegistered : stage.registered = true) :
    stage.hasExited = false := by
  cases stage with
  | running => rfl
  | leaving exit => rfl
  | cleared exit => cases isRegistered
  | exited exit => cases isRegistered

/-- A worker that has left its loop does not come back to it. -/
theorem Stage.Moves.notRunning
    {before after : Stage}
    {flags next : WorkerFlags}
    (moves : Moves before flags after next)
    (left : before ≠ .running) :
    after ≠ .running := by
  rintro rfl
  cases before with
  | running => exact left rfl
  | leaving exit => exact moves
  | cleared exit => exact moves
  | exited exit => exact moves

/-- Only a worker in its loop can turn to its `must_stop` branch. -/
theorem Stage.Moves.keepsOn
    {before after : Stage}
    {flags next : WorkerFlags}
    (moves : Moves before flags after next)
    (calm : before = .running → flags.mustStop = false)
    (keptOn : before.stopping = false) :
    after.stopping = false := by
  cases before with
  | running => exact moves.stopping (calm rfl) keptOn
  | leaving exit =>
      cases after with
      | leaving other => obtain rfl := moves.1; exact keptOn
      | cleared other => obtain rfl := moves.1; cases other <;> exact keptOn
      | _ => exact moves.elim
  | cleared exit =>
      cases after with
      | exited other => obtain rfl := moves.1; cases other <;> exact keptOn
      | _ => exact moves.elim
  | exited exit => cases after <;> exact moves.elim

/-- A worker that raises its completion flag once, on its way out. -/
structure Report (program : WorkerProgram) where
  /-- The next statement of the worker raises the flag. -/
  reporting : program.Local → Bool
  completed :
    ∀ {thread},
      reporting thread = true →
      program.stage thread = .leaving .completed
  fromLoop :
    ∀ input thread statics flags,
      program.stage thread = .running →
      flags.mustStop = false →
      (program.stage (program.step input thread statics flags).1 =
            .running ∨
          reporting (program.step input thread statics flags).1 =
            true) ∧
        (flags.done = false →
          (program.step input thread statics flags).2.2.done = false)
  raises :
    ∀ input thread statics flags,
      reporting thread = true →
      reporting (program.step input thread statics flags).1 = false ∧
        (program.step input thread statics flags).2.2.done = true
  after :
    ∀ input thread statics flags,
      program.stage thread ≠ .running →
      reporting thread = false →
      reporting (program.step input thread statics flags).1 = false ∧
        (program.step input thread statics flags).2.2.done = flags.done
  storesDone : .done ∈ program.startStores

namespace Report

variable {program : WorkerProgram} (report : Report program)

/-- In its loop, or about to raise the flag. -/
def AtWork (thread : program.Local) : Prop :=
  program.stage thread = .running ∨ report.reporting thread = true

variable {report}

/-- A thread at work is registered. -/
theorem AtWork.registered
    {thread : program.Local}
    (atWork : report.AtWork thread) :
    (program.stage thread).registered = true := by
  rcases atWork with running | reporting
  · exact Stage.registered_of_running running
  · rw [report.completed reporting]
    rfl

theorem atWork_entry : report.AtWork program.entry :=
  .inl program.entryRunning

section Steps

variable
  {input : program.Input}
  {thread : program.Local}
  {statics : program.Statics}
  {flags : WorkerFlags}

/-- A worker at work goes on with the flag down, or has raised it. -/
theorem AtWork.step
    (atWork : report.AtWork thread)
    (calm : flags.mustStop = false)
    (down : flags.done = false) :
    (report.AtWork (program.step input thread statics flags).1 ∧
        (program.step input thread statics flags).2.2.done = false) ∨
      (¬ report.AtWork (program.step input thread statics flags).1 ∧
        (program.step input thread statics flags).2.2.done = true) := by
  rcases atWork with running | reporting
  · obtain ⟨goesOn, kept⟩ :=
      report.fromLoop input thread statics flags running calm
    exact .inl ⟨goesOn, kept down⟩
  · obtain ⟨reported, raised⟩ :=
      report.raises input thread statics flags reporting
    have stage := report.completed reporting
    have moves :=
      program.moves input thread statics flags (by rw [stage]; rfl)
    refine .inr ⟨?_, raised⟩
    rintro (running | again)
    · exact moves.notRunning (by rw [stage]; simp) running
    · exact absurd (reported.symm.trans again) (by decide)

/-- Once the flag is up a worker leaves it alone and stays away from work. -/
theorem step_of_not_atWork
    (away : ¬ report.AtWork thread)
    (alive : (program.stage thread).hasExited = false) :
    ¬ report.AtWork (program.step input thread statics flags).1 ∧
      (program.step input thread statics flags).2.2.done = flags.done := by
  have left : program.stage thread ≠ .running := fun running =>
    away (.inl running)
  have silent : report.reporting thread = false :=
    Bool.not_eq_true _ ▸ fun reporting => away (.inr reporting)
  obtain ⟨still, kept⟩ := report.after input thread statics flags left silent
  have moves := program.moves input thread statics flags alive
  refine ⟨?_, kept⟩
  rintro (running | reporting)
  · exact moves.notRunning left running
  · exact absurd (still.symm.trans reporting) (by decide)

end Steps

end Report

namespace WorkerProgram

variable {program : WorkerProgram}

/-- Some worker is at work. -/
def AtWork (report : Report program) (state : State program) : Prop :=
  ∃ (index : Nat) (thread : program.Local),
    state.workers[index]? = some thread ∧ report.AtWork thread

/-- Somebody who waits for the completion flag will see it, or sees it. -/
def Served (report : Report program) (state : State program) : Prop :=
  AtWork report state ∨ state.flags.done = true

/-- Flags and workers, as long as no worker is stopped at work. -/
structure Steady (report : Report program) (state : State program) :
    Prop where
  wellFormed : WellFormed state
  calm :
    AtWork report state →
      state.flags.mustStop = false ∧ state.flags.done = false
  reported :
    ∀ {index thread},
      RegisteredAt state index thread →
      ¬ report.AtWork thread →
      state.flags.done = true
  keptOn :
    ∀ thread ∈ state.workers, (program.stage thread).stopping = false
  /-- During a start call the stores before `rest` have been made. -/
  lowered :
    ∀ {rest},
      state.call = some rest →
      ∃ taken,
        program.startStores = taken ++ rest ∧
          (.done ∈ taken → state.flags.done = false)

namespace Steady

variable {report : Report program} {state : State program}

theorem boot
    (statics : program.Statics) :
    Steady report (WorkerProgram.boot statics) where
  wellFormed := .boot statics
  calm atWork := by
    obtain ⟨index, thread, found, -⟩ := atWork
    simp [WorkerProgram.boot] at found
  reported registered := by
    simp [RegisteredAt, WorkerProgram.boot] at registered
  keptOn thread member := by simp [WorkerProgram.boot] at member
  lowered calling := by simp [WorkerProgram.boot] at calling

/-- While a thread is at work no start is in progress. -/
theorem idle_of_atWork
    (steady : Steady report state)
    (atWork : AtWork report state) :
    state.call = none := by
  obtain ⟨index, thread, found, busy⟩ := atWork
  exact (steady.wellFormed.last ⟨found, busy.registered⟩).2.1

/-- A start that is refused finds the flag up, or a worker at work. -/
theorem served_of_thdExist
    (steady : Steady report state)
    (idle : state.call = none)
    (existing : state.flags.thdExist = true) :
    Served report state := by
  obtain ⟨index, thread, found, isRegistered⟩ :=
    steady.wellFormed.present idle existing
  by_cases busy : report.AtWork thread
  · exact .inl ⟨index, thread, found, busy⟩
  · exact .inr (steady.reported ⟨found, isRegistered⟩ busy)

end Steady

section WorkerSteps

variable
  {report : Report program}
  {state : State program}
  {index : Nat}
  {thread : program.Local}
  {input : program.Input}

/-- Who is at work after a step of a worker was so before. -/
theorem atWork_of_workerStep
    (steady : Steady report state)
    (current : state.workers[index]? = some thread)
    (alive : (program.stage thread).hasExited = false)
    (atWork : AtWork report (workerStep state index thread input)) :
    AtWork report state ∧
      ((report.AtWork thread ∧
          report.AtWork
            (program.step input thread state.statics state.flags).1) ∨
        (program.stage thread).registered = false) := by
  obtain ⟨other, otherThread, found, busy⟩ := atWork
  rcases registeredAt_workerStep_cases steady.wellFormed current alive
      ⟨found, busy.registered⟩ with
    ⟨-, rfl, rfl⟩ | ⟨gone, earlier, -⟩
  · by_cases before : report.AtWork thread
    · exact ⟨⟨other, thread, current, before⟩, .inl ⟨before, busy⟩⟩
    · exact ((Report.step_of_not_atWork before alive).1 busy).elim
  · exact ⟨⟨other, otherThread, earlier, busy⟩, .inr gone⟩

/-- A step of a worker keeps a promise to the one who waits. -/
theorem served_workerStep
    (steady : Steady report state)
    (current : state.workers[index]? = some thread)
    (alive : (program.stage thread).hasExited = false)
    (served : Served report state) :
    Served report (workerStep state index thread input) := by
  by_cases before : report.AtWork thread
  · obtain ⟨calm, down⟩ := steady.calm ⟨index, thread, current, before⟩
    rcases before.step calm down with ⟨busy, -⟩ | ⟨-, raised⟩
    · exact .inl ⟨index, _, getElem?_workerStep_self current, busy⟩
    · exact .inr raised
  · rcases served with ⟨other, otherThread, found, busy⟩ | raised
    · refine .inl ⟨other, otherThread, ?_, busy⟩
      rw [getElem?_workerStep current, if_neg, found]
      rintro rfl
      rw [current] at found
      cases found
      exact before busy
    · exact .inr ((Report.step_of_not_atWork before alive).2.trans raised)

/-- Without a worker at work the flag is left alone. -/
theorem done_workerStep
    (current : state.workers[index]? = some thread)
    (alive : (program.stage thread).hasExited = false)
    (away : ¬ AtWork report state) :
    (workerStep state index thread input).flags.done = state.flags.done :=
  (@Report.step_of_not_atWork _ report _ _ _ _
    (fun busy => away ⟨index, thread, current, busy⟩) alive).2

/-- A statement of a worker keeps its kind steady. -/
theorem steady_workerStep
    (steady : Steady report state)
    (current : state.workers[index]? = some thread)
    (alive : (program.stage thread).hasExited = false)
    (wellFormed : WellFormed (workerStep state index thread input)) :
    Steady report (workerStep state index thread input) := by
  have moves := program.moves input thread state.statics state.flags alive
  refine ⟨wellFormed, fun atWork => ?_, fun registered away => ?_,
    fun other member => ?_, fun calling => ?_⟩
  · obtain ⟨earlier, now | gone⟩ :=
      atWork_of_workerStep steady current alive atWork
    · obtain ⟨calm, down⟩ := steady.calm earlier
      refine ⟨moves.mustStop calm, ?_⟩
      rcases now.1.step calm down with ⟨-, kept⟩ | ⟨stopped, -⟩
      · exact kept
      · exact (stopped now.2).elim
    · rw [workerStep_flags_of_unregistered alive gone]
      exact steady.calm earlier
  · rcases registeredAt_workerStep_cases steady.wellFormed current alive
        registered with
      ⟨isRegistered, rfl, rfl⟩ | ⟨gone, earlier⟩
    · by_cases before : report.AtWork thread
      · obtain ⟨calm, down⟩ :=
          steady.calm ⟨_, thread, current, before⟩
        rcases before.step calm down with ⟨busy, -⟩ | ⟨-, raised⟩
        · exact (away busy).elim
        · exact raised
      · exact (Report.step_of_not_atWork before alive).2.trans
          (steady.reported ⟨current, isRegistered⟩ before)
    · rw [workerStep_flags_of_unregistered alive gone]
      exact steady.reported earlier away
  · rcases List.mem_or_eq_of_mem_set member with earlier | rfl
    · exact steady.keptOn other earlier
    · refine moves.keepsOn (fun running => ?_)
        (steady.keptOn thread (List.mem_of_getElem? current))
      exact (steady.calm ⟨index, thread, current, .inl running⟩).1
  · have gone : (program.stage thread).registered = false := by
      by_contra here
      exact steady.wellFormed.noneRegistered calling
        ⟨current, Bool.not_eq_false _ ▸ here⟩
    rw [workerStep_flags_of_unregistered alive gone]
    exact steady.lowered calling

end WorkerSteps

/-- Step lemma: only a stop at work could disturb flags and workers. -/
theorem steady_step
    {report : Report program}
    {state next : State program}
    {action : Action program}
    (steady : Steady report state)
    (noStop : action = .stop → ¬ AtWork report state)
    (taken : step? state action = some next) :
    Steady report next := by
  have wellFormed := wellFormed_step steady.wellFormed taken
  rcases step?_cases taken with
    ⟨-, -, -, rfl⟩ |
    ⟨-, idle, missing, rfl⟩ |
    ⟨store, rest, -, calling, rfl⟩ |
    ⟨-, calling, rfl⟩ |
    ⟨rfl, idle, rfl⟩ |
    ⟨index, input, thread, -, current, alive, rfl⟩
  · exact steady
  · refine ⟨wellFormed, steady.calm, steady.reported, steady.keptOn,
      fun calling => ?_⟩
    cases calling
    exact ⟨[], rfl, fun member => (List.not_mem_nil member).elim⟩
  · refine ⟨wellFormed, fun atWork => ?_, fun registered => ?_,
      steady.keptOn, fun later => ?_⟩
    · have idle := steady.idle_of_atWork atWork
      rw [calling] at idle
      cases idle
    · exact (steady.wellFormed.noneRegistered calling registered).elim
    · cases later
      obtain ⟨taken, split, lowered⟩ := steady.lowered calling
      refine ⟨taken ++ [store], ?_, fun member => ?_⟩
      · rw [split, List.append_assoc]
        rfl
      · rcases List.mem_append.mp member with earlier | now
        · exact store.done_apply (lowered earlier)
        · rw [← List.mem_singleton.mp now]
          rfl
  · obtain ⟨taken, split, lowered⟩ := steady.lowered calling
    obtain ⟨stores, same, -, calm⟩ := steady.wellFormed.stores calling
    rw [List.append_nil] at split same
    refine ⟨wellFormed, fun _ => ⟨?_, ?_⟩, fun registered away => ?_,
      fun thread member => ?_, fun later => ?_⟩
    · exact calm (same ▸ program.storesStop)
    · exact lowered (split ▸ report.storesDone)
    · obtain ⟨found, isRegistered⟩ := registered
      rw [List.getElem?_append] at found
      split at found
      · exact (steady.wellFormed.noneRegistered calling
          ⟨found, isRegistered⟩).elim
      · have isEntry := List.mem_singleton.mp (List.mem_of_getElem? found)
        exact (away (isEntry ▸ Report.atWork_entry)).elim
    · rcases List.mem_append.mp member with earlier | now
      · exact steady.keptOn thread earlier
      · rw [List.mem_singleton.mp now, program.entryRunning]
        rfl
    · cases later
  · refine ⟨wellFormed, fun atWork => ?_, steady.reported, steady.keptOn,
      steady.lowered⟩
    exact (noStop rfl atWork).elim
  · exact steady_workerStep steady current alive wellFormed

end WorkerProgram

/-- `good_color = 1` is next. -/
def Scan.reporting (thread : Scan.Local) : Bool :=
  thread.pc = .setGoodColor

/-- How `Scan` comes to report. -/
def Scan.report : Report Scan.program where
  reporting := Scan.reporting
  completed {thread} reporting := by
    have here : thread.pc = .setGoodColor := of_decide_eq_true reporting
    simp only [Scan.program, here, Scan.stage]
  fromLoop := by
    rintro input ⟨pc, distApproach, colorScanned⟩ statics flags
      running calm
    simp only [Scan.program, Scan.reporting] at *
    cases pc with
    | testMustStop =>
        simp [Scan.next, calm, Scan.stage, Scan.store]
    | testMax | spin =>
        cases inRange : Scan.belowMax input.distMm <;>
          simp [Scan.next, inRange, Scan.stage, Scan.store]
    | testMin =>
        cases inRange : Scan.aboveMin input.distMm <;>
          simp [Scan.next, inRange, Scan.stage, Scan.store]
    | testColor =>
        cases found : Scan.colorFound input.colorMode colorScanned <;>
          simp [Scan.next, found, Scan.stage, Scan.store]
    | drive leg point =>
        cases moved :
            DistanceApproach.next? (leg.distance distApproach) point with
        | some following => simp [Scan.next, moved, Scan.stage, Scan.store]
        | none =>
            cases leg <;>
              simp [Scan.next, moved, Scan.Leg.after, Scan.stage, Scan.store]
    | colorScan point =>
        cases read : ColorScan.step input.lineRed input.lineBlue point <;>
          simp [Scan.next, read, Scan.stage, Scan.store]
    | stopLeft | stopRight | clearMustStop | clearExistStopped
    | exitStopped | setGoodColor | clearExistFound | exitFound
    | exited exit =>
        simp [Scan.stage] at running
    | _ =>
        simp [Scan.next, Scan.stage, Scan.store]
  raises := by
    rintro input ⟨pc, distApproach, colorScanned⟩ statics flags reporting
    obtain rfl : pc = .setGoodColor := of_decide_eq_true reporting
    exact ⟨rfl, rfl⟩
  after := by
    rintro input ⟨pc, distApproach, colorScanned⟩ statics flags left silent
    simp only [Scan.program, Scan.reporting, ne_eq,
      decide_eq_false_iff_not] at *
    cases pc with
    | setGoodColor => exact (silent rfl).elim
    | stopLeft | stopRight | clearMustStop | clearExistStopped
    | exitStopped | clearExistFound | exitFound | exited exit =>
        simp [Scan.next, Scan.store]
    | _ => simp [Scan.stage] at left
  storesDone := by simp [Scan.program, Scan.scanStart]

/-- `beer_gotten = true` is next. -/
def Beer.reporting (thread : Beer.Local) : Bool :=
  thread.pc = .setBeerGotten

/-- How `Beer` comes to report. -/
def Beer.report : Report Beer.program where
  reporting := Beer.reporting
  completed {thread} reporting := by
    have here : thread.pc = .setBeerGotten := of_decide_eq_true reporting
    simp only [Beer.program, here, Beer.stage]
  fromLoop := by
    rintro input ⟨pc, distApproach⟩ statics flags running calm
    simp only [Beer.program, Beer.reporting] at *
    cases pc with
    | testMustStop =>
        simp [Beer.next, calm, Beer.stage, Beer.store]
    | testDist =>
        simp only [Beer.next]
        split <;> simp [Beer.stage, Beer.store]
    | drive leg point =>
        cases moved :
            DistanceApproach.next? (leg.distance distApproach) point with
        | some following => simp [Beer.next, moved, Beer.stage, Beer.store]
        | none =>
            cases leg <;>
              simp [Beer.next, moved, Beer.afterDrive, Beer.stage, Beer.store]
    | clearMustStop | clearExistStopped | exitStopped | setBeerGotten
    | clearExistServed | exitServed | exited exit =>
        simp [Beer.stage] at running
    | _ =>
        simp [Beer.next, Beer.stage, Beer.store]
  raises := by
    rintro input ⟨pc, distApproach⟩ statics flags reporting
    obtain rfl : pc = .setBeerGotten := of_decide_eq_true reporting
    exact ⟨rfl, rfl⟩
  after := by
    rintro input ⟨pc, distApproach⟩ statics flags left silent
    simp only [Beer.program, Beer.reporting, ne_eq,
      decide_eq_false_iff_not] at *
    cases pc with
    | setBeerGotten => exact (silent rfl).elim
    | clearMustStop | clearExistStopped | exitStopped | clearExistServed
    | exitServed | exited exit =>
        simp [Beer.next, Beer.store]
    | _ => simp [Beer.stage] at left
  storesDone := by simp [Beer.program, Beer.beerStart]

/-- `is_done = true` is next. -/
def PidDistance.reporting (thread : PidDistance.Local) : Bool :=
  thread.pc = .setDone

/-- How `PidRegulator` comes to report. -/
def PidDistance.report (round : ℚ → ℚ) :
    Report (PidDistance.program round) where
  reporting := PidDistance.reporting
  completed {thread} reporting := by
    have here : thread.pc = .setDone := of_decide_eq_true reporting
    simp only [PidDistance.program, here, PidDistance.stage]
  fromLoop := by
    rintro input ⟨pc, speed⟩ memory flags running calm
    simp only [PidDistance.program, PidDistance.reporting] at *
    cases pc with
    | testMustStop =>
        simp [PidDistance.next, calm, PidDistance.stage, PidDistance.store]
    | testSpeed =>
        simp only [PidDistance.next]
        split
        · split <;> simp [PidDistance.stage, PidDistance.store]
        · simp [PidDistance.stage, PidDistance.store]
    | testStableTime | compute | setRight | setLeft | sleepUntil =>
        simp [PidDistance.next, PidDistance.stage, PidDistance.store]
    | _ =>
        simp [PidDistance.stage] at running
  raises := by
    rintro input ⟨pc, speed⟩ memory flags reporting
    obtain rfl : pc = .setDone := of_decide_eq_true reporting
    exact ⟨rfl, rfl⟩
  after := by
    rintro input ⟨pc, speed⟩ memory flags left silent
    simp only [PidDistance.program, PidDistance.reporting, ne_eq,
      decide_eq_false_iff_not] at *
    cases pc with
    | setDone => exact (silent rfl).elim
    | testMustStop | testStableTime | compute | setRight | setLeft
    | testSpeed | sleepUntil =>
        simp [PidDistance.stage] at left
    | _ => simp [PidDistance.next, PidDistance.store]
  storesDone := by
    simp [PidDistance.program, PidDistance.pidDistanceStart]

/-- How each kind of worker comes to report. -/
def WorkerId.report (round : ℚ → ℚ) :
    ∀ worker : WorkerId, Report (worker.program round)
  | .scan => Scan.report
  | .beer => Beer.report
  | .pid => PidDistance.report round

end EPuckTavern
