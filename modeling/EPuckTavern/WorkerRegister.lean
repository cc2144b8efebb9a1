import EPuckTavern.Scan
import EPuckTavern.Beer
import EPuckTavern.PidDistance

namespace EPuckTavern

open Transition

/-!
# What `thd_exist` says about the workers

A worker is registered while `thd_exist` stands for it.  In every reachable
state at most one worker is, it is the one created last, and between calls of
the start function the flag is set exactly when there is one.  The registered
worker is not the same as the worker that is alive: a worker that has cleared
the flag still has to call `chThdExit`.
-/

/-- The three kinds of workers. -/
inductive WorkerId where
  | scan
  | beer
  | pid
  deriving Repr, DecidableEq

/-- The code of a kind of worker. -/
def WorkerId.program (round : ℚ → ℚ) : WorkerId → WorkerProgram
  | .scan => Scan.program
  | .beer => Beer.program
  | .pid => PidDistance.program round

namespace WorkerProgram

variable {program : WorkerProgram}

/-- Worker `index` is at local state `thread` and registered. -/
def RegisteredAt
    (state : State program)
    (index : Nat)
    (thread : program.Local) : Prop :=
  state.workers[index]? = some thread ∧
    (program.stage thread).registered = true

/-- Every worker created so far has executed `chThdExit`. -/
def AllExited (state : State program) : Prop :=
  ∀ thread ∈ state.workers, (program.stage thread).hasExited = true

/-- Flags, start call and workers fit together. -/
structure WellFormed (state : State program) : Prop where
  /-- A registered worker is the last one, and the flag stands for it. -/
  last :
    ∀ {index thread},
      RegisteredAt state index thread →
      index + 1 = state.workers.length ∧
        state.call = none ∧ state.flags.thdExist = true
  /-- Between calls the flag is set for a registered worker only. -/
  present :
    state.call = none →
    state.flags.thdExist = true →
    ∃ index thread, RegisteredAt state index thread
  /-- A call in progress has made its first stores, and nobody else any. -/
  stores :
    ∀ {rest},
      state.call = some rest →
      ∃ taken,
        program.startStores = taken ++ rest ∧
          (.thdExist ∈ taken → state.flags.thdExist = true) ∧
          (.mustStop ∈ taken → state.flags.mustStop = false)

namespace WellFormed

/-- At most one worker is registered. -/
theorem unique
    {state : State program}
    {index other : Nat}
    {thread otherThread : program.Local}
    (wellFormed : WellFormed state)
    (first : RegisteredAt state index thread)
    (second : RegisteredAt state other otherThread) :
    other = index := by
  have firstLast := (wellFormed.last first).1
  have secondLast := (wellFormed.last second).1
  exact Nat.succ_injective (secondLast.trans firstLast.symm)

/-- During a call of the start function no thread is registered. -/
theorem noneRegistered
    {state : State program}
    {rest : List FlagStore}
    {index : Nat}
    {thread : program.Local}
    (wellFormed : WellFormed state)
    (calling : state.call = some rest) :
    ¬ RegisteredAt state index thread := by
  intro registered
  have idle := (wellFormed.last registered).2.1
  rw [calling] at idle
  cases idle

/-- When all threads are gone `thd_exist` is down. -/
theorem thdExist_of_allExited
    {state : State program}
    (wellFormed : WellFormed state)
    (idle : state.call = none)
    (exited : AllExited state) :
    state.flags.thdExist = false := by
  by_contra existing
  obtain ⟨index, thread, found, registered⟩ :=
    wellFormed.present idle (Bool.not_eq_false _ ▸ existing)
  have gone := exited thread (List.mem_of_getElem? found)
  cases stage : program.stage thread with
  | exited exit => rw [stage] at registered; cases registered
  | _ => rw [stage] at gone; cases gone

theorem boot
    (statics : program.Statics) :
    WellFormed (WorkerProgram.boot statics) where
  last registered := by simp [RegisteredAt, WorkerProgram.boot] at registered
  present _ existing := by
    simp [WorkerProgram.boot, WorkerFlags.initial] at existing
  stores calling := by simp [WorkerProgram.boot] at calling

end WellFormed

section WorkerSteps

variable
  {state : State program}
  {index other : Nat}
  {thread otherThread : program.Local}
  {input : program.Input}

theorem getElem?_workerStep
    (current : state.workers[index]? = some thread) :
    (workerStep state index thread input).workers[other]? =
      if other = index then
        some (program.step input thread state.statics state.flags).1
      else
        state.workers[other]? := by
  have inRange := (List.getElem?_eq_some_iff.mp current).1
  simp only [workerStep, List.getElem?_set, inRange, ↓reduceIte, eq_comm]

theorem getElem?_workerStep_self
    (current : state.workers[index]? = some thread) :
    (workerStep state index thread input).workers[index]? =
      some (program.step input thread state.statics state.flags).1 := by
  rw [getElem?_workerStep current, if_pos rfl]

@[simp] theorem workerStep_length :
    (workerStep state index thread input).workers.length =
      state.workers.length := by
  simp [workerStep]

/--
A worker registered after a step of a worker is the one that took it, or one
that the step of an unregistered worker has not touched.
-/
theorem registeredAt_workerStep_cases
    (wellFormed : WellFormed state)
    (current : state.workers[index]? = some thread)
    (alive : (program.stage thread).hasExited = false)
    (registered :
      RegisteredAt (workerStep state index thread input)
        other otherThread) :
    ((program.stage thread).registered = true ∧ other = index ∧
        otherThread =
          (program.step input thread state.statics state.flags).1) ∨
      ((program.stage thread).registered = false ∧
        RegisteredAt state other otherThread) := by
  have moves :=
    program.moves input thread state.statics state.flags alive
  obtain ⟨found, isRegistered⟩ := registered
  rw [getElem?_workerStep current] at found
  cases before : (program.stage thread).registered with
  | false =>
      split at found
      · cases found
        have gone := (moves.unregistered before).1
        exact absurd (gone.symm.trans isRegistered) (by decide)
      · exact .inr ⟨rfl, found, isRegistered⟩
  | true =>
      split at found
      · rename_i same
        cases found
        exact .inl ⟨rfl, same, rfl⟩
      · rename_i different
        exact absurd
          (wellFormed.unique ⟨current, before⟩ ⟨found, isRegistered⟩)
          different

/-- A thread that has given up its registration stores no flag. -/
theorem workerStep_flags_of_unregistered
    (alive : (program.stage thread).hasExited = false)
    (gone : (program.stage thread).registered = false) :
    (workerStep state index thread input).flags = state.flags :=
  ((program.moves input thread state.statics state.flags
    alive).unregistered gone).2

/--
A worker registered after a step of a worker was registered before, and the
step has left `thd_exist` as it was.
-/
theorem registeredAt_workerStep
    (wellFormed : WellFormed state)
    (current : state.workers[index]? = some thread)
    (alive : (program.stage thread).hasExited = false)
    (registered :
      RegisteredAt (workerStep state index thread input)
        other otherThread) :
    (∃ before, RegisteredAt state other before) ∧
      (workerStep state index thread input).flags.thdExist =
        state.flags.thdExist := by
  rcases registeredAt_workerStep_cases
      wellFormed current alive registered with
    ⟨before, rfl, rfl⟩ | ⟨gone, earlier⟩
  · have moves :=
      program.moves input thread state.statics state.flags alive
    rcases moves.registered before with ⟨-, kept⟩ | ⟨gone, -⟩
    · exact ⟨⟨thread, current, before⟩, kept⟩
    · exact absurd (gone.symm.trans registered.2) (by decide)
  · exact ⟨⟨otherThread, earlier⟩,
      congrArg WorkerFlags.thdExist
        (workerStep_flags_of_unregistered alive gone)⟩

/-- A flag that stays up stands for a thread that is registered. -/
theorem registered_of_thdExist_workerStep
    (wellFormed : WellFormed state)
    (current : state.workers[index]? = some thread)
    (alive : (program.stage thread).hasExited = false)
    (idle : state.call = none)
    (existing :
      (workerStep state index thread input).flags.thdExist = true) :
    ∃ other otherThread,
      RegisteredAt (workerStep state index thread input)
        other otherThread := by
  cases before : (program.stage thread).registered with
  | true =>
      have moves :=
        program.moves input thread state.statics state.flags alive
      rcases moves.registered before with ⟨here, -⟩ | ⟨-, cleared⟩
      · exact ⟨index, _, getElem?_workerStep_self current, here⟩
      · exact absurd (cleared.symm.trans existing) (by decide)
  | false =>
      rw [workerStep_flags_of_unregistered alive before] at existing
      obtain ⟨other, otherThread, found, isRegistered⟩ :=
        wellFormed.present idle existing
      refine ⟨other, otherThread, ?_, isRegistered⟩
      rw [getElem?_workerStep current, if_neg, found]
      rintro rfl
      rw [current] at found
      cases found
      exact absurd (before.symm.trans isRegistered) (by decide)

end WorkerSteps

/-- Every step keeps flags, start call and workers fitting together. -/
theorem wellFormed_step
    {state next : State program}
    {action : Action program}
    (wellFormed : WellFormed state)
    (taken : step? state action = some next) :
    WellFormed next := by
  rcases step?_cases taken with
    ⟨-, -, -, rfl⟩ |
    ⟨-, idle, missing, rfl⟩ |
    ⟨store, rest, -, calling, rfl⟩ |
    ⟨-, calling, rfl⟩ |
    ⟨-, idle, rfl⟩ |
    ⟨index, input, thread, -, current, alive, rfl⟩
  · exact wellFormed
  · refine ⟨fun registered => ?_, fun free => ?_, fun calling => ?_⟩
    · have existing := (wellFormed.last registered).2.2
      rw [missing] at existing
      cases existing
    · cases free
    · cases calling
      exact ⟨[], rfl, fun member => (List.not_mem_nil member).elim,
        fun member => (List.not_mem_nil member).elim⟩
  · refine ⟨fun registered => ?_, fun free => ?_, fun later => ?_⟩
    · exact (wellFormed.noneRegistered calling registered).elim
    · cases free
    · cases later
      obtain ⟨taken, split, existing, calm⟩ := wellFormed.stores calling
      refine ⟨taken ++ [store], ?_, fun member => ?_, fun member => ?_⟩
      · rw [split, List.append_assoc]
        rfl
      · rcases List.mem_append.mp member with earlier | now
        · exact store.thdExist_apply (existing earlier)
        · rw [← List.mem_singleton.mp now]
          rfl
      · rcases List.mem_append.mp member with earlier | now
        · exact store.mustStop_apply (calm earlier)
        · rw [← List.mem_singleton.mp now]
          rfl
  · obtain ⟨taken, split, existing, -⟩ := wellFormed.stores calling
    rw [List.append_nil] at split
    have set := existing (split ▸ program.storesExist)
    refine ⟨fun registered => ?_, fun _ _ => ?_, fun later => ?_⟩
    · obtain ⟨found, isRegistered⟩ := registered
      rename_i index thread
      rw [List.getElem?_append] at found
      split at found
      · exact (wellFormed.noneRegistered calling
          ⟨found, isRegistered⟩).elim
      · rename_i beyond
        obtain ⟨inRange, -⟩ := List.getElem?_eq_some_iff.mp found
        rw [List.length_singleton] at inRange
        refine ⟨?_, rfl, set⟩
        rw [List.length_append, List.length_singleton]
        omega
    · refine ⟨state.workers.length, program.entry, ?_, ?_⟩
      · simp
      · rw [program.entryRunning]
        rfl
    · cases later
  · refine ⟨fun registered => ?_, fun _ existing => ?_, fun calling => ?_⟩
    · exact wellFormed.last registered
    · exact wellFormed.present idle existing
    · rw [show state.call = _ from calling] at idle
      cases idle
  · refine ⟨fun registered => ?_, fun free existing => ?_,
      fun calling => ?_⟩
    · obtain ⟨⟨before, earlier⟩, kept⟩ :=
        registeredAt_workerStep wellFormed current alive registered
      obtain ⟨isLast, idle, set⟩ := wellFormed.last earlier
      exact ⟨isLast.trans workerStep_length.symm, idle, kept.trans set⟩
    · exact registered_of_thdExist_workerStep
        wellFormed current alive free existing
    · have gone : (program.stage thread).registered = false := by
        by_contra here
        exact wellFormed.noneRegistered calling
          ⟨current, Bool.not_eq_false _ ▸ here⟩
      rw [workerStep_flags_of_unregistered alive gone]
      exact wellFormed.stores calling

theorem wellFormed_of_reachable
    {statics : program.Statics}
    {state : State program}
    (reachable : Reachable step? (boot statics) state) :
    WellFormed state :=
  reachable.invariant wellFormed_step (.boot statics)

end WorkerProgram

end EPuckTavern
