import EPuckTavern.Transition.Ledger
import EPuckTavern.TavernTurns

namespace EPuckTavern.Tavern

open Transition
open Scenario (Call Starts)
open WorkerProgram (AtWork)

/-!
# One job for each wait

A start function that finds `thd_exist` set returns without a word, and main
then waits for a flag that an earlier worker has left up.  The ledger below
counts workers, refused starts and waits that have ended, for each kind of
worker and over any run: nothing but a refusal lets main pass a wait loop
without a worker of its own.
-/

/-- What tips the balance of starts and waits. -/
inductive Event where
  /-- A start function returns at once, for `thd_exist` is set. -/
  | refused (worker : WorkerId)
  /-- Main leaves the wait loop for the worker. -/
  | passed (worker : WorkerId)
  deriving Repr, DecidableEq

variable {round : ℚ → ℚ}

/-- What a step of main says about starts and waits. -/
def emit (state : State round) : Action round → List Event
  | .main _ _ =>
      match state.pending with
      | [] =>
          match state.scenario.pc.awaits? with
          | some worker =>
              if (state.workers worker).flags.done then
                [.passed worker]
              else
                []
          | none => []
      | call :: _ =>
          match call.starts? with
          | some worker =>
              if (state.workers worker).call.isNone &&
                  (state.workers worker).flags.thdExist then
                [.refused worker]
              else
                []
          | none => []
  | .worker _ _ _ => []

/-- Main has called the start function and is in the wait loop. -/
def Waiting (worker : WorkerId) (state : State round) : Prop :=
  state.scenario.pc.awaits? = some worker ∧ ¬ Starts state.pending worker

instance (pending : List Call) (worker : WorkerId) :
    Decidable (Starts pending worker) :=
  inferInstanceAs (Decidable (∃ call ∈ pending, call.starts? = some worker))

instance (worker : WorkerId) (state : State round) :
    Decidable (Waiting worker state) :=
  inferInstanceAs (Decidable (_ ∧ _))

/-- Workers created, less the one that main waits for. -/
def earlierJobs (worker : WorkerId) (state : State round) : Int :=
  (state.workers worker).workers.length -
    if Waiting worker state then 1 else 0

/-- A wait that ends counts for a job, a refused start against one. -/
def worth (worker : WorkerId) (event : Event) : Int :=
  (if event = .passed worker then 1 else 0) -
    if event = .refused worker then 1 else 0

section Steps

variable
  {worker : WorkerId}
  {state : State round}
  {selector : Fin 16}
  {now : Systime}

theorem not_starts_of_rest
    {call : Call}
    {rest : List Call}
    (other : call.starts? ≠ some worker) :
    Starts (call :: rest) worker ↔ Starts rest worker := by
  constructor
  · rintro ⟨later, member, starts⟩
    rcases List.mem_cons.mp member with rfl | member
    · exact (other starts).elim
    · exact ⟨later, member, starts⟩
  · rintro ⟨later, member, starts⟩
    exact ⟨later, List.mem_cons_of_mem call member, starts⟩

/-- While main waits, all jobs but one are done. -/
theorem earlierJobs_of_waiting
    (waiting : Waiting worker state) :
    earlierJobs worker state =
      (state.workers worker).workers.length - 1 := by
  rw [earlierJobs, if_pos waiting]

/-- While main does not wait, all jobs are done. -/
theorem earlierJobs_of_not_waiting
    (notWaiting : ¬ Waiting worker state) :
    earlierJobs worker state =
      (state.workers worker).workers.length := by
  rw [earlierJobs, if_neg notWaiting, sub_zero]

/-- A reading of main leaves the workers alone. -/
@[simp] theorem poll_workers :
    (state.poll selector now).workers = state.workers :=
  rfl

/-- A reading ends the wait it belongs to, or changes none. -/
theorem earlierJobs_poll
    (polling : state.pending = []) :
    earlierJobs worker (state.poll selector now) =
      earlierJobs worker state +
        ((emit state (.main selector now)).map (worth worker)).sum := by
  have reads :
      (state.reading selector now).done worker =
        (state.workers worker).flags.done := by
    cases worker <;> rfl
  by_cases awaits : state.scenario.pc.awaits? = some worker
  · have waiting : Waiting worker state :=
      ⟨awaits, by rw [polling]; exact Scenario.not_starts_nil⟩
    cases up : (state.workers worker).flags.done with
    | false =>
        obtain ⟨same, none⟩ :=
          Scenario.waits_of_awaits awaits (reads.trans up)
        have still : Waiting worker (state.poll selector now) := by
          refine ⟨?_, ?_⟩
          · simpa only [State.poll, same] using awaits
          · simpa only [State.poll, none] using Scenario.not_starts_nil
        rw [earlierJobs_of_waiting waiting, earlierJobs_of_waiting still]
        simp [emit, polling, awaits, up]
    | true =>
        have left : ¬ Waiting worker (state.poll selector now) :=
          fun waiting =>
            Scenario.leaves_of_awaits awaits (reads.trans up) waiting.1
        rw [earlierJobs_of_waiting waiting, earlierJobs_of_not_waiting left]
        simp [emit, polling, awaits, up, worth]
  · have notYet : ¬ Waiting worker state := fun waiting =>
      awaits waiting.1
    have notNow : ¬ Waiting worker (state.poll selector now) := by
      rintro ⟨arrives, without⟩
      exact without (Scenario.starts_of_awaits awaits arrives)
    have silent :
        ((emit state (.main selector now)).map (worth worker)).sum = 0 := by
      simp only [emit, polling]
      cases elsewhere : state.scenario.pc.awaits? with
      | none => rfl
      | some other =>
          have different : other ≠ worker := by
            rintro rfl
            exact awaits elsewhere
          cases up : (state.workers other).flags.done <;>
            simp [worth, different, up]
    rw [earlierJobs_of_not_waiting notYet,
      earlierJobs_of_not_waiting notNow, silent, poll_workers, add_zero]

/-- The jobs depend on main's loop, its next calls and the threads created. -/
theorem earlierJobs_frame
    {next : State round}
    (samePc : next.scenario.pc = state.scenario.pc)
    (sameStarts :
      Starts next.pending worker ↔ Starts state.pending worker)
    (sameNumber :
      (next.workers worker).workers.length =
        (state.workers worker).workers.length) :
    earlierJobs worker next = earlierJobs worker state := by
  have same : Waiting worker next ↔ Waiting worker state := by
    simp only [Waiting, samePc, sameStarts]
  simp only [earlierJobs, same, sameNumber]

/-- Only a refused start, and a start that returns, touch the ledger. -/
theorem earlierJobs_start
    {call : Call}
    {started : WorkerId}
    {after : WorkerProgram.State (started.program round)}
    (ordered : Ordered state)
    (ahead : state.pending = [call])
    (starts : call.starts? = some started)
    (moved :
      WorkerProgram.step? (state.workers started)
          (if (state.workers started).call.isSome then
            .caller else .start) = some after) :
    earlierJobs worker
        { state with
          pending := if after.call.isSome then state.pending else []
          workers := Function.update state.workers started after } =
      earlierJobs worker state +
        ((emit state (.main selector now)).map (worth worker)).sum := by
  have ahead' : Starts state.pending started :=
    ⟨call, by rw [ahead]; exact List.mem_singleton_self call, starts⟩
  by_cases same : worker = started
  · subst same
    have awaits := (ordered.inTurn worker).own (.inr (.inr ahead'))
    have notYet : ¬ Waiting worker state := fun waiting =>
      waiting.2 ahead'
    rw [earlierJobs_of_not_waiting notYet]
    -- What the start function returns to is the wait loop.
    have returned
        (left : after.call = none) :
        Waiting worker
          { state with
            pending := if after.call.isSome then state.pending else []
            workers := Function.update state.workers worker after } := by
      refine ⟨awaits, ?_⟩
      simpa only [left, Option.isSome_none, Bool.false_eq_true, ↓reduceIte]
        using Scenario.not_starts_nil
    have inside
        (entered : after.call.isSome = true) :
        ¬ Waiting worker
          { state with
            pending := if after.call.isSome then state.pending else []
            workers := Function.update state.workers worker after } := by
      rintro ⟨-, without⟩
      simp only [entered, ↓reduceIte] at without
      exact without ahead'
    rcases WorkerProgram.step?_cases moved with
      ⟨-, idle, existing, rfl⟩ |
      ⟨-, idle, missing, rfl⟩ |
      ⟨store, stores, -, calling, rfl⟩ |
      ⟨-, calling, rfl⟩ |
      ⟨stopped, -⟩ |
      ⟨index, input, thread, stepped, -⟩
    · rw [earlierJobs_of_waiting (returned idle)]
      simp [emit, ahead, starts, idle, existing, worth, sub_eq_add_neg]
    · rw [earlierJobs_of_not_waiting (inside rfl)]
      simp [emit, ahead, starts, idle, missing]
    · rw [earlierJobs_of_not_waiting (inside rfl)]
      simp [emit, ahead, starts, calling]
    · rw [earlierJobs_of_waiting (returned rfl)]
      simp [emit, ahead, starts, calling]
    · split at stopped <;> cases stopped
    · split at stepped <;> cases stepped
  · have different : started ≠ worker := fun equal => same equal.symm
    have other : call.starts? ≠ some worker := by
      rw [starts]
      exact fun equal => different (Option.some.inj equal)
    have silent :
        ((emit state (.main selector now)).map (worth worker)).sum = 0 := by
      simp only [emit, ahead, starts]
      split <;> simp [worth, different]
    rw [silent, add_zero]
    refine earlierJobs_frame rfl ?_ ?_
    · simp only [ahead]
      split
      · exact Iff.rfl
      · exact (not_starts_of_rest other).symm
    · simp only [Function.update_of_ne same]

end Steps

/-- Step lemma: every step of the system pays for what it says. -/
theorem earlierJobs_step
    {worker : WorkerId}
    {state next : State round}
    {action : Action round}
    (ordered : Ordered state)
    (taken : step? state action = some next) :
    earlierJobs worker next =
      earlierJobs worker state +
        ((emit state action).map (worth worker)).sum := by
  rcases step?_cases taken with
    ⟨selector, now, rfl, polling, rfl⟩ |
    ⟨_, _, call, rest, started, after, rfl, ahead, starts, moved, rfl⟩ |
    ⟨_, _, call, rest, stopped, after, rfl, ahead, -, starts, moved, rfl⟩ |
    ⟨_, _, call, rest, rfl, ahead, starts, rfl⟩ |
    ⟨which, index, input, after, rfl, moved, rfl⟩
  · exact earlierJobs_poll polling
  · have startLast := ordered.startLast
    rw [ahead] at startLast
    obtain rfl := startLast.rest_eq_nil starts
    exact earlierJobs_start ordered ahead starts moved
  · simp only [emit, ahead, starts, List.map_nil, List.sum_nil, add_zero]
    refine earlierJobs_frame rfl ?_ ?_
    · rw [ahead]
      exact (not_starts_of_rest (by rw [starts]; simp)).symm
    · by_cases same : worker = stopped
      · subst same
        simp only [Function.update_self]
        rcases WorkerProgram.step?_cases moved with
          ⟨impossible, -⟩ | ⟨impossible, -⟩ | ⟨_, _, impossible, -⟩ |
          ⟨impossible, -⟩ | ⟨-, -, rfl⟩ | ⟨_, _, _, impossible, -⟩
        case inr.inr.inr.inr.inl => rfl
        all_goals cases impossible
      · simp only [Function.update_of_ne same]
  · simp only [emit, ahead, starts, List.map_nil, List.sum_nil, add_zero]
    refine earlierJobs_frame rfl ?_ rfl
    rw [ahead]
    exact (not_starts_of_rest (by rw [starts]; simp)).symm
  · simp only [emit, List.map_nil, List.sum_nil, add_zero]
    refine earlierJobs_frame rfl Iff.rfl ?_
    by_cases same : worker = which
    · subst same
      simp only [Function.update_self]
      rcases WorkerProgram.step?_cases moved with
        ⟨impossible, -⟩ | ⟨impossible, -⟩ | ⟨_, _, impossible, -⟩ |
        ⟨impossible, -⟩ | ⟨impossible, -⟩ | ⟨_, _, _, -, _, -, rfl⟩
      case inr.inr.inr.inr.inr => exact WorkerProgram.workerStep_length
      all_goals cases impossible
    · simp only [Function.update_of_ne same]

/-- The ledger of some events: waits ended less starts refused. -/
theorem sum_worth
    (worker : WorkerId)
    (events : List Event) :
    (events.map (worth worker)).sum =
      events.count (.passed worker) - events.count (.refused worker) := by
  induction events with
  | nil => rfl
  | cons event rest inductionHypothesis =>
      simp only [List.map_cons, List.sum_cons, inductionHypothesis, worth,
        List.count_cons, beq_iff_eq, Nat.cast_add, Nat.cast_ite,
        Nat.cast_one, Nat.cast_zero]
      omega

/--
For each kind of worker and every run from boot: the workers created and the
starts refused are together as many as the waits that main has ended, and one
more while main waits.
-/
theorem jobs_balance
    {state : State round}
    {actions : List (Action round)}
    (ran : run? step? (boot round) actions = some state)
    (worker : WorkerId) :
    (state.workers worker).workers.length +
        (trace step? emit (boot round) actions).count (.refused worker) =
      (trace step? emit (boot round) actions).count (.passed worker) +
        if Waiting worker state then 1 else 0 := by
  have ledger :=
    @run?_ledger _ _ _ _ _ step? emit Ordered (earlierJobs worker)
      (worth worker) ordered_step earlierJobs_step _ _ _ ordered_boot ran
  rw [sum_worth] at ledger
  have initially : earlierJobs worker (boot round) = 0 := by
    rw [earlierJobs_of_not_waiting (fun waiting => by cases waiting.1)]
    rfl
  rw [initially, zero_add, earlierJobs] at ledger
  split at ledger <;> rename_i waiting <;> simp only [waiting, ↓reduceIte] <;>
    omega

/-- Main in the tavern, at a time before or after the next thirst. -/
def inTavern (now : Systime) : Action id :=
  .main Scenario.tavernModeSelection now

/-- The bar, where `Scan` sees black. -/
def blackBar : Scan.Input where
  distMm := 150
  lineRed := true
  lineBlue := true
  colorMode := .autre

/--
One beer is served and main is thirsty again, while the scan of the first
round has still to clear `thd_exist`.
-/
def firstRound : List (Action id) :=
  List.replicate 7 (inTavern 1) ++ inTavern 1000000 ::
    List.replicate 8 (inTavern 1) ++
    List.replicate 16 (.worker .scan 0 blackBar) ++
    List.replicate 6 (inTavern 1) ++
    List.replicate 15 (.worker .beer 0 ⟨150⟩) ++
    List.replicate 5 (inTavern 1) ++ inTavern 1000000 ::
    List.replicate 3 (inTavern 1)

/-- Main is about to start a scan for the second time. -/
def thirstyAgain : State id :=
  (run? step? (boot id) firstRound).getD (boot id)

theorem reachable_thirstyAgain : Reachable step? (boot id) thirstyAgain :=
  ⟨firstRound, run?_eq_some_getD (by decide +kernel)⟩

/-- That start is refused, and main waits for the scan of the first round. -/
def refusedAgain : State id :=
  (run? step? (boot id) (firstRound ++ [inTavern 1])).getD (boot id)

/-- One scan and one refused start, for one wait ended and one begun. -/
theorem jobs_balance_refusedAgain :
    (refusedAgain.workers .scan).workers.length +
          (trace step? emit (boot id) (firstRound ++ [inTavern 1])).count
            (.refused .scan) =
        (trace step? emit (boot id) (firstRound ++ [inTavern 1])).count
            (.passed .scan) +
          (if Waiting .scan refusedAgain then 1 else 0) ∧
      (trace step? emit (boot id) (firstRound ++ [inTavern 1])).count
          (.refused .scan) = 1 ∧
      Waiting .scan refusedAgain :=
  ⟨jobs_balance (run?_eq_some_getD (by decide +kernel)) .scan,
    by decide +kernel, by decide +kernel⟩

/-- Main is past a refused start, with the flag of the worker left up. -/
structure Overlooked (worker : WorkerId) (state : State round) : Prop where
  waiting : state.scenario.pc.awaits? = some worker ∧ state.pending = []
  away : ¬ AtWork (worker.report round) (state.workers worker)
  up : (state.workers worker).flags.done = true

/-- A refused start leaves main waiting for a job of before. -/
theorem overlooked_of_refused
    {worker : WorkerId}
    {state next : State round}
    {action : Action round}
    (ordered : Ordered state)
    (refuses : .refused worker ∈ emit state action)
    (taken : step? state action = some next) :
    Overlooked worker next := by
  rcases step?_cases taken with
    ⟨selector, now, rfl, polling, rfl⟩ |
    ⟨_, _, call, rest, started, after, rfl, ahead, starts, moved, rfl⟩ |
    ⟨_, _, call, rest, stopped, after, rfl, ahead, -, starts, moved, rfl⟩ |
    ⟨_, _, call, rest, rfl, ahead, starts, rfl⟩ |
    ⟨which, index, input, after, rfl, moved, rfl⟩
  · simp only [emit, polling] at refuses
    split at refuses
    · split at refuses <;> simp at refuses
    · simp at refuses
  · simp only [emit, ahead, starts] at refuses
    split at refuses
    · rename_i both
      obtain rfl : worker = started := by simpa using refuses
      simp only [Bool.and_eq_true, Option.isNone_iff_eq_none] at both
      obtain ⟨idle, existing⟩ := both
      have startLast := ordered.startLast
      rw [ahead] at startLast
      obtain rfl := startLast.rest_eq_nil starts
      have inTurn := ordered.inTurn worker
      rw [ahead] at inTurn
      have awaits := inTurn.own
        (.inr (.inr ⟨call, List.mem_singleton_self call, starts⟩))
      simp only [idle, Option.isSome_none, Bool.false_eq_true, ↓reduceIte,
        WorkerProgram.step?, existing, Option.some.injEq] at moved
      subst moved
      refine ⟨⟨awaits, ?_⟩, ?_, ?_⟩
      · simp [idle]
      · simpa only [Function.update_self] using inTurn.away
      · simp only [Function.update_self]
        rcases inTurn.steady.served_of_thdExist idle existing with
          atWork | up
        · exact (inTurn.away atWork).elim
        · exact up
    · simp at refuses
  · simp [emit, ahead, starts] at refuses
  · simp [emit, ahead, starts] at refuses
  · simp [emit] at refuses

/-- No worker takes the flag of that job down. -/
theorem overlooked_workerStep
    {worker which : WorkerId}
    {state next : State round}
    {index : Nat}
    {input : (which.program round).Input}
    (ordered : Ordered state)
    (overlooked : Overlooked worker state)
    (taken : step? state (.worker which index input) = some next) :
    Overlooked worker next := by
  obtain ⟨waiting, away, up⟩ := overlooked
  obtain ⟨after, moved, rfl⟩ := Option.map_eq_some_iff.mp taken
  by_cases same : worker = which
  · subst same
    have steady := (ordered.inTurn worker).steady
    rcases WorkerProgram.step?_cases moved with
      ⟨impossible, -⟩ | ⟨impossible, -⟩ | ⟨_, _, impossible, -⟩ |
      ⟨impossible, -⟩ | ⟨impossible, -⟩ |
      ⟨place, seen, thread, -, current, alive, rfl⟩
    case inr.inr.inr.inr.inr =>
        refine ⟨waiting, ?_, ?_⟩
        · simp only [Function.update_self]
          exact fun atWork => away
            (WorkerProgram.atWork_of_workerStep steady current alive
              atWork).1
        · simp only [Function.update_self]
          exact (WorkerProgram.done_workerStep current alive away).trans up
    all_goals cases impossible
  · exact ⟨waiting, by simpa only [Function.update_of_ne same] using away,
      by simpa only [Function.update_of_ne same] using up⟩

/--
After a refused start main leaves the wait loop at its very next reading,
whatever the workers do until then: the wait is for a job done before.
-/
theorem passes_after_refused
    {worker : WorkerId}
    {state refused later : State round}
    {action : Action round}
    {between : List (Action round)}
    (reachable : Reachable step? (boot round) state)
    (refuses : .refused worker ∈ emit state action)
    (taken : step? state action = some refused)
    (onlyWorkers :
      ∀ step ∈ between, ∃ which index input,
        step = .worker which index input)
    (ran : run? step? refused between = some later)
    (selector : Fin 16)
    (now : Systime) :
    emit later (.main selector now) = [.passed worker] := by
  have ordered := ordered_of_reachable reachable
  have along :
      Along step?
        (fun _ step => ∃ which index input, step = .worker which index input)
        refused between :=
    along_of_forall_mem (fun step member _ _ _ => onlyWorkers step member)
      refused
  have both : Ordered later ∧ Overlooked worker later := by
    refine @run?_invariant_along _ _ step?
      (fun state => Ordered state ∧ Overlooked worker state) _ ?_ _ _ _
      ⟨ordered_step ordered taken,
        overlooked_of_refused ordered refuses taken⟩ along ran
    rintro before step next ⟨inOrder, overlooked⟩
      ⟨which, index, input, rfl⟩ moved
    exact ⟨ordered_step inOrder moved,
      overlooked_workerStep inOrder overlooked moved⟩
  obtain ⟨⟨awaits, polling⟩, -, up⟩ := both.2
  simp [emit, polling, awaits, up]

theorem passes_after_refused_scan :
    ∃ refused,
      step? thirstyAgain (inTavern 1) = some refused ∧
        emit refused (inTavern 1) = [.passed .scan] := by
  have enabled : (step? thirstyAgain (inTavern 1)).isSome = true := by
    decide +kernel
  have taken := Option.eq_some_of_isSome enabled
  exact ⟨_, taken, @passes_after_refused id .scan _ _ _ _ []
    reachable_thirstyAgain (by decide +kernel) taken (by simp) rfl _ _⟩

end EPuckTavern.Tavern
