import EPuckTavern.WorkerRegister

namespace EPuckTavern.WorkerProgram

open Transition

/-!
# Which starts take effect

A start function does nothing while `thd_exist` is set, and it leaves
`must_stop` alone then.  A start that finds a worker which has been asked to
stop is therefore lost: that worker goes on to its `must_stop` branch.  Every
other start is kept for as long as no stop is called after it.
-/

variable {program : WorkerProgram}

/-- The worker that `thd_exist` stands for, if any, has no stop ahead. -/
def Unasked (state : State program) : Prop :=
  state.flags.mustStop = false ∧
    ∀ index thread,
      RegisteredAt state index thread →
      (program.stage thread).stopping = false

/-- A start finds no worker, or one that has not been asked to stop. -/
def Accepts (state : State program) : Prop :=
  state.flags.thdExist = false ∨ Unasked state

/-- A start entered at `before` has returned, and no stop was called since. -/
def StartReturns
    (before : State program)
    (calling : List (Action program))
    (returned : State program) : Prop :=
  run? step? before (.start :: calling) = some returned ∧
    .stop ∉ calling ∧ returned.call = none

/-- Without another stop the newest worker never turns to `must_stop`. -/
def KeptRunning (returned : State program) : Prop :=
  ∀ later final index thread,
    .stop ∉ later →
    run? step? returned later = some final →
    index + 1 = returned.workers.length →
    final.workers[index]? = some thread →
    (program.stage thread).stopping = false

/--
From worker `first` on, no worker turns to its `must_stop` branch: the request
is down, or a start that is still to take it down has not created the worker.
-/
structure Undisturbed (first : Nat) (state : State program) : Prop where
  calm :
    state.flags.mustStop = false ∨
      state.workers.length ≤ first ∧
        ∃ rest, state.call = some rest ∧ .mustStop ∈ rest
  keptOn :
    ∀ {index thread},
      first ≤ index →
      state.workers[index]? = some thread →
      (program.stage thread).stopping = false
  created :
    first < state.workers.length ∨
      first = state.workers.length ∧ state.call ≠ none

/-- An accepted start leaves every worker from the one it serves on alone. -/
theorem undisturbed_of_accepts
    {before entered : State program}
    (wellFormed : WellFormed before)
    (accepts : Accepts before)
    (taken : step? before .start = some entered) :
    ∃ first, Undisturbed first entered := by
  rcases step?_cases taken with
    ⟨-, idle, existing, rfl⟩ | ⟨-, -, missing, rfl⟩ |
    ⟨_, _, impossible, -⟩ | ⟨impossible, -⟩ | ⟨impossible, -⟩ |
    ⟨_, _, _, impossible, -⟩
  · obtain ⟨newest, thread, registered⟩ := wellFormed.present idle existing
    have isLast := (wellFormed.last registered).1
    rcases accepts with missing | ⟨calm, unasked⟩
    · exact absurd (missing.symm.trans existing) (by decide)
    · refine ⟨newest, .inl calm, fun {index other} beyond found => ?_,
        .inl (isLast ▸ Nat.lt_succ_self newest)⟩
      have inRange := (List.getElem?_eq_some_iff.mp found).1
      have same : index = newest :=
        Nat.le_antisymm
          (Nat.le_of_lt_succ (inRange.trans_eq isLast.symm)) beyond
      subst same
      rw [registered.1] at found
      cases found
      exact unasked index thread registered
  · refine ⟨before.workers.length,
      .inr ⟨Nat.le_refl _, _, rfl, program.storesStop⟩,
      fun {index other} beyond found => ?_, .inr ⟨rfl, by simp⟩⟩
    have inRange := (List.getElem?_eq_some_iff.mp found).1
    exact (Nat.not_lt_of_le beyond inRange).elim
  all_goals cases impossible

/-- Step lemma: only a stop could disturb the workers. -/
theorem undisturbed_step
    {first : Nat}
    {state next : State program}
    {action : Action program}
    (undisturbed : Undisturbed first state)
    (noStop : action ≠ .stop)
    (taken : step? state action = some next) :
    Undisturbed first next := by
  obtain ⟨calm, keptOn, created⟩ := undisturbed
  rcases step?_cases taken with
    ⟨-, -, -, rfl⟩ |
    ⟨-, idle, -, rfl⟩ |
    ⟨store, rest, -, calling, rfl⟩ |
    ⟨-, calling, rfl⟩ |
    ⟨stopped, -⟩ |
    ⟨index, input, thread, -, current, alive, rfl⟩
  · exact ⟨calm, keptOn, created⟩
  · refine ⟨.inl ?_, keptOn, .inl ?_⟩
    · rcases calm with calm | ⟨-, rest, calling, -⟩
      · exact calm
      · rw [idle] at calling
        cases calling
    · rcases created with created | ⟨-, calling⟩
      · exact created
      · exact (calling idle).elim
  · refine ⟨?_, keptOn, ?_⟩
    · rcases calm with calm | ⟨few, stores, same, member⟩
      · exact .inl (store.mustStop_apply calm)
      · rw [calling] at same
        cases same
        rcases List.mem_cons.mp member with now | later
        · exact .inl (now ▸ rfl)
        · exact .inr ⟨few, rest, rfl, later⟩
    · rcases created with created | ⟨same, -⟩
      · exact .inl created
      · exact .inr ⟨same, by simp⟩
  · refine ⟨.inl ?_, fun {index thread} beyond found => ?_, .inl ?_⟩
    · rcases calm with calm | ⟨-, stores, same, member⟩
      · exact calm
      · rw [calling] at same
        cases same
        cases member
    · rw [List.getElem?_append] at found
      split at found
      · exact keptOn beyond found
      · have isEntry : thread = program.entry :=
          List.mem_singleton.mp (List.mem_of_getElem? found)
        rw [isEntry, program.entryRunning]
        rfl
    · rw [List.length_append, List.length_singleton]
      rcases created with created | ⟨same, -⟩
      · exact Nat.lt_succ_of_lt created
      · exact same ▸ Nat.lt_succ_self _
  · exact (noStop stopped).elim
  · have moves :=
      program.moves input thread state.statics state.flags alive
    refine ⟨?_, fun {other otherThread} beyond found => ?_, ?_⟩
    · rcases calm with calm | ⟨few, pending⟩
      · exact .inl (moves.mustStop calm)
      · exact .inr ⟨workerStep_length.trans_le few, pending⟩
    · rw [getElem?_workerStep current] at found
      split at found
      · rename_i same
        subst same
        cases found
        rcases calm with calm | ⟨few, -⟩
        · exact moves.stopping calm (keptOn beyond current)
        · have inRange := (List.getElem?_eq_some_iff.mp current).1
          exact absurd (inRange.trans_le few) (Nat.not_lt_of_le beyond)
      · exact keptOn beyond found
    · rw [workerStep_length]
      exact created

/-- Run lemma: in a run without stops the workers stay undisturbed. -/
theorem undisturbed_run
    {first : Nat}
    {state final : State program}
    {actions : List (Action program)}
    (undisturbed : Undisturbed first state)
    (noStop : .stop ∉ actions)
    (ran : run? step? state actions = some final) :
    Undisturbed first final := by
  have along :
      Along step? (fun _ action => action ≠ .stop) state actions := by
    refine along_of_forall_mem ?_ state
    intro action member _ _ _ isStop
    exact noStop (isStop ▸ member)
  exact run?_invariant_along undisturbed_step undisturbed along ran

/--
For each of the three workers and every run: a start that finds no worker, or
one that has not been asked to stop, is kept until the next stop.
-/
theorem accepted_start_kept
    {round : ℚ → ℚ}
    {worker : WorkerId}
    {statics : (worker.program round).Statics}
    {before returned : State (worker.program round)}
    {calling : List (Action (worker.program round))}
    (reachable : Reachable step? (boot statics) before)
    (accepts : Accepts before)
    (returns : StartReturns before calling returned) :
    returned.workers ≠ [] ∧ KeptRunning returned := by
  obtain ⟨ran, noStop, idle⟩ := returns
  obtain ⟨entered, taken, called⟩ := run?_cons_eq_some.mp ran
  obtain ⟨first, undisturbed⟩ :=
    undisturbed_of_accepts (wellFormed_of_reachable reachable) accepts taken
  have atReturn := undisturbed_run undisturbed noStop called
  have served : first < returned.workers.length := by
    rcases atReturn.created with created | ⟨-, calling⟩
    · exact created
    · exact (calling idle).elim
  refine ⟨List.ne_nil_of_length_pos (Nat.zero_lt_of_lt served), ?_⟩
  intro later final index thread noStopLater ran newest found
  have atEnd := undisturbed_run atReturn noStopLater ran
  exact atEnd.keptOn
    (Nat.le_of_lt_succ (served.trans_eq newest.symm)) found

/-- `Scan` measures nothing in its range. -/
def emptyRoom : Scan.Input where
  distMm := 8190
  lineRed := false
  lineBlue := false
  colorMode := .rouge

/-- `Scan` has just been started. -/
def scanning : State Scan.program where
  flags := ⟨true, false, false⟩
  statics := ()
  call := none
  workers := [Scan.entry]

/-- A `scan_start`, a `stop_scan`, and the way out of that worker. -/
def scanStopped : List (Action Scan.program) :=
  .start :: List.replicate 4 .caller ++
    .stop :: List.replicate 5 (.worker 0 emptyRoom)

/-- `thd_exist` is cleared, and the worker has `chThdExit` ahead. -/
def afterScanStop : State Scan.program where
  flags := ⟨false, false, false⟩
  statics := ()
  call := none
  workers := [⟨.exitStopped, 0, .autre⟩]

/-- The next `scan_start`, during which that worker exits. -/
def scanRestart : List (Action Scan.program) :=
  [.caller, .worker 0 emptyRoom, .caller, .caller, .caller]

/-- The first `Scan` has stopped, and another one has been started. -/
def scanRestarted : State Scan.program where
  flags := ⟨true, false, false⟩
  statics := ()
  call := none
  workers := [⟨.exited .stopped, 0, .autre⟩, Scan.entry]

/-- A `scan_start` after a worker has left through `must_stop` is kept. -/
theorem restart_kept :
    scanRestarted.workers ≠ [] ∧ KeptRunning scanRestarted := by
  have ran : run? step? (boot ()) scanStopped = some afterScanStop := rfl
  have returns : StartReturns afterScanStop scanRestart scanRestarted :=
    ⟨rfl, by simp [scanRestart], rfl⟩
  exact @accepted_start_kept id .scan () _ _ _
    ⟨scanStopped, ran⟩ (.inl rfl) returns

/-- A start that finds a worker with a stop request is lost. -/
theorem start_after_stop_lost :
    ¬ ∀ round worker statics before calling returned,
      Reachable step?
          (@boot (WorkerId.program round worker) statics) before →
      StartReturns before calling returned →
      KeptRunning returned := by
  intro kept
  have stopped :
      run? step? (boot ())
          (.start :: List.replicate 4 .caller ++ [.stop]) =
        some { scanning with flags := ⟨true, true, false⟩ } :=
    rfl
  have returns :
      StartReturns { scanning with flags := ⟨true, true, false⟩ } []
        { scanning with flags := ⟨true, true, false⟩ } :=
    ⟨rfl, List.not_mem_nil, rfl⟩
  have lost :=
    kept id .scan () _ _ _ ⟨_, stopped⟩ returns
      [.worker 0 emptyRoom] _ 0 ⟨.stopLeft, 0, .autre⟩
      (by simp) rfl rfl rfl
  cases lost

end EPuckTavern.WorkerProgram
