import EPuckTavern.WorkerRegister

namespace EPuckTavern.WorkerProgram

open Transition

/-!
# Re-use of a working area

`chThdCreateStatic` overwrites the working area it is given, so a start
function may only reach it when no earlier worker is still alive.  The guard
on `thd_exist` keeps out every earlier worker that is registered, and nothing
else: a worker clears the flag one statement before `chThdExit`, and a start
that is complete within that statement overwrites the stack of a live thread.
-/

variable {program : WorkerProgram}

/-- The action is the call of `chThdCreateStatic`. -/
def Creates (state : State program) : Action program → Prop
  | .caller => state.call = some []
  | _ => False

/-- A thread is created only once every earlier one has exited. -/
def AreaFree (state : State program) (action : Action program) : Prop :=
  Creates state action → AllExited state

/-- A worker stands between `thd_exist = false` and `chThdExit`. -/
def ExitPending (state : State program) : Prop :=
  ∃ thread ∈ state.workers, ∃ exit, program.stage thread = .cleared exit

/-- No thread is created while an exit is pending. -/
def ExitFirst (state : State program) (action : Action program) : Prop :=
  Creates state action → ¬ ExitPending state

/-- A start that creates a thread finds none registered. -/
theorem noneRegistered_of_creates
    {state : State program}
    {action : Action program}
    (wellFormed : WellFormed state)
    (creates : Creates state action) :
    ∀ thread ∈ state.workers,
      (program.stage thread).registered = false := by
  intro thread member
  cases action with
  | caller =>
      obtain ⟨index, found⟩ := List.mem_iff_getElem?.mp member
      by_contra registered
      exact wellFormed.noneRegistered creates
        ⟨found, Bool.not_eq_false _ ▸ registered⟩
  | _ => exact creates.elim

/-- The area is free at a creation exactly when no exit is pending. -/
theorem areaFree_iff_exitFirst
    {state : State program}
    {action : Action program}
    (wellFormed : WellFormed state) :
    AreaFree state action ↔ ExitFirst state action := by
  constructor
  · rintro free creates ⟨thread, member, exit, pending⟩
    have exited := free creates thread member
    rw [pending] at exited
    cases exited
  · intro first creates thread member
    rcases Stage.exited_or_cleared
        (noneRegistered_of_creates wellFormed creates thread member) with
      exited | ⟨exit, pending⟩
    · exact exited
    · exact (first creates ⟨thread, member, exit, pending⟩).elim

/--
For each of the three workers and every run of caller and workers: each
thread is created on a free area exactly when none is created between another
worker's `thd_exist = false` and its `chThdExit`.
-/
theorem alongAreaFree_iff_alongExitFirst
    (round : ℚ → ℚ)
    (worker : WorkerId)
    (statics : (worker.program round).Statics)
    (actions : List (Action (worker.program round))) :
    Along step? AreaFree (boot statics) actions ↔
      Along step? ExitFirst (boot statics) actions :=
  along_congr wellFormed_step
    (fun wellFormed _ => areaFree_iff_exitFirst wellFormed)
    (.boot statics) actions

/-- `Beer` measures 100 mm to the bar. -/
def barAhead : Beer.Input where
  distMm := 100

/--
`beer_start` creates a worker, which runs up to its `chThdExit`; a second
`beer_start` then takes all its stores.
-/
def secondStart : List (Action Beer.program) :=
  .start :: List.replicate 4 .caller ++
    List.replicate 16 (.worker 0 barAhead) ++
    .start :: List.replicate 3 .caller

/-- The first `Beer` has cleared `thd_exist` and stands before its exit. -/
def secondStartState : State Beer.program where
  flags := ⟨true, false, false⟩
  statics := ()
  call := some []
  workers := [⟨.exitServed, 75⟩]

/-- A start that overtakes the exit of a worker overwrites its stack. -/
theorem start_overtakes_exit :
    ¬ ∀ round worker statics actions,
      Along step?
        (@AreaFree (WorkerId.program round worker))
        (boot statics) actions := by
  intro free
  -- The drive computes with rationals, which reduce only when unfolded.
  have ran : run? step? (boot ()) secondStart = some secondStartState := by
    with_unfolding_all rfl
  have created :
      step? secondStartState .caller =
        some { secondStartState with
          call := none
          workers := secondStartState.workers ++ [Beer.program.entry] } :=
    rfl
  have last : AreaFree secondStartState .caller :=
    along_last (free id .beer () (secondStart ++ [.caller])) ran created
  have exited := last rfl ⟨.exitServed, 75⟩ List.mem_cons_self
  exact absurd exited (by decide)

end EPuckTavern.WorkerProgram
