import Mathlib.Logic.Function.Basic
import Mathlib.Order.WellFounded
import EPuckTavern.Transition.Run

namespace EPuckTavern.Transition.LockOrder

/-!
# Threads that take several locks

Each thread takes locks while it holds others, works on shared data, and may
wait, with one lock, for a broadcast.  If the locks are only taken in an order
in which every chain of later locks ends, no threads wait for each other's
locks for ever.
-/

variable {Id Lock Shared Local : Type}

/-- What the statement at a control point does. -/
inductive Statement (Lock Shared Local : Type) where
  | acquire (lock : Lock) (next : Local)
  | release (lock : Lock) (next : Local)
  /-- On the condition variable that goes with the lock. -/
  | condWait (lock : Lock) (next : Local)
  | broadcast (lock : Lock) (next : Local)
  | work (after : Shared) (next : Local)
  /-- No call is in progress. -/
  | idle
  /-- A pointer is followed that points nowhere. -/
  | fault

/-- The code of the threads, and the locks they hold in it. -/
structure Program (Lock Shared Local : Type) where
  statement : Shared → Local → Statement Lock Shared Local
  /-- A call begins here. -/
  entry : Local → Bool
  /-- The locks that are held at a control point, the last taken first. -/
  held : Shared → Local → List Lock
  entry_outside : ∀ shared pc, entry pc = true → held shared pc = []

/-- Where a thread stands, and whether it sleeps there. -/
inductive Status (Lock Local : Type) where
  | running (pc : Local)
  /-- In the queue of the condition variable. -/
  | asleep (lock : Lock) (pc : Local)
  /-- Out of the queue, without the lock yet. -/
  | woken (lock : Lock) (pc : Local)

/-- Where the thread goes on. -/
def Status.pc : Status Lock Local → Local
  | .running pc | .asleep _ pc | .woken _ pc => pc

/-- The lock that the thread needs before it goes on, once it has waited. -/
def Status.waits? : Status Lock Local → Option (Lock × Local)
  | .running _ => none
  | .asleep lock pc | .woken lock pc => some (lock, pc)

/-- What is shared, who owns each lock, and the threads. -/
structure State (Id Lock Shared Local : Type) where
  shared : Shared
  owner : Lock → Option Id
  threads : Id → Status Lock Local

/-- No thread is in a call. -/
def boot (shared : Shared) (pc : Local) : State Id Lock Shared Local where
  shared := shared
  owner _ := none
  threads _ := .running pc

/-- A call, or the next statement of a thread. -/
inductive Action (Id Local : Type) where
  | call (id : Id) (pc : Local)
  | step (id : Id)

/-- The thread that acts. -/
def Action.thread : Action Id Local → Id
  | .call id _ | .step id => id

section Semantics

variable [DecidableEq Id] [DecidableEq Lock]

/-- A broadcast takes the threads out of the queue that goes with `lock`. -/
def Status.wake (lock : Lock) : Status Lock Local → Status Lock Local
  | .asleep other pc =>
      if other = lock then .woken other pc else .asleep other pc
  | other => other

@[simp] theorem Status.wake_pc
    (lock : Lock)
    (status : Status Lock Local) :
    (status.wake lock).pc = status.pc := by
  cases status with
  | asleep other pc =>
      simp only [Status.wake]
      split <;> rfl
  | running pc | woken other pc => rfl

@[simp] theorem Status.wake_eq_running
    {lock : Lock}
    {status : Status Lock Local}
    {pc : Local} :
    status.wake lock = .running pc ↔ status = .running pc := by
  cases status with
  | asleep other here =>
      simp only [Status.wake]
      split <;> simp
  | running here | woken other here => rfl

@[simp] theorem Status.waits?_wake
    (lock : Lock)
    (status : Status Lock Local) :
    (status.wake lock).waits? = status.waits? := by
  cases status with
  | asleep other pc =>
      simp only [Status.wake]
      split <;> rfl
  | running pc | woken other pc => rfl

/-- A statement that cannot go on, at a lock in other hands, is no step. -/
def Program.step?
    (program : Program Lock Shared Local) :
    Step (State Id Lock Shared Local) (Action Id Local)
  | state, .call id pc =>
      match state.threads id with
      | .running current =>
          match program.statement state.shared current with
          | .idle =>
              if program.entry pc then
                some { state with
                  threads := Function.update state.threads id (.running pc) }
              else
                none
          | _ => none
      | _ => none
  | state, .step id =>
      match state.threads id with
      | .running pc =>
          match program.statement state.shared pc with
          | .acquire lock next =>
              if (state.owner lock).isNone then
                some { state with
                  owner := Function.update state.owner lock (some id)
                  threads :=
                    Function.update state.threads id (.running next) }
              else
                none
          | .release lock next =>
              some { state with
                owner := Function.update state.owner lock none
                threads :=
                  Function.update state.threads id (.running next) }
          | .condWait lock next =>
              some { state with
                owner := Function.update state.owner lock none
                threads :=
                  Function.update state.threads id (.asleep lock next) }
          | .broadcast lock next =>
              some { state with
                threads :=
                  Function.update (Status.wake lock ∘ state.threads) id
                    (.running next) }
          | .work after next =>
              some { state with
                shared := after
                threads :=
                  Function.update state.threads id (.running next) }
          | .idle | .fault => none
      | .asleep _ _ => none
      | .woken lock pc =>
          if (state.owner lock).isNone then
            some { state with
              owner := Function.update state.owner lock (some id)
              threads := Function.update state.threads id (.running pc) }
          else
            none

/-- What a step can do, one case for each kind of statement. -/
inductive Program.Move
    (program : Program Lock Shared Local)
    (state : State Id Lock Shared Local) :
    Action Id Local → State Id Lock Shared Local → Prop where
  | call
      {id : Id}
      {current pc : Local}
      (running : state.threads id = .running current)
      (here : program.statement state.shared current = .idle)
      (entry : program.entry pc = true) :
      Move program state (.call id pc)
        { state with
          threads := Function.update state.threads id (.running pc) }
  | acquire
      {id : Id}
      {pc after : Local}
      {lock : Lock}
      (running : state.threads id = .running pc)
      (here : program.statement state.shared pc = .acquire lock after)
      (free : state.owner lock = none) :
      Move program state (.step id)
        { state with
          owner := Function.update state.owner lock (some id)
          threads := Function.update state.threads id (.running after) }
  | resume
      {id : Id}
      {pc : Local}
      {lock : Lock}
      (woken : state.threads id = .woken lock pc)
      (free : state.owner lock = none) :
      Move program state (.step id)
        { state with
          owner := Function.update state.owner lock (some id)
          threads := Function.update state.threads id (.running pc) }
  | release
      {id : Id}
      {pc after : Local}
      {lock : Lock}
      (running : state.threads id = .running pc)
      (here : program.statement state.shared pc = .release lock after) :
      Move program state (.step id)
        { state with
          owner := Function.update state.owner lock none
          threads := Function.update state.threads id (.running after) }
  | condWait
      {id : Id}
      {pc after : Local}
      {lock : Lock}
      (running : state.threads id = .running pc)
      (here : program.statement state.shared pc = .condWait lock after) :
      Move program state (.step id)
        { state with
          owner := Function.update state.owner lock none
          threads := Function.update state.threads id (.asleep lock after) }
  | broadcast
      {id : Id}
      {pc after : Local}
      {lock : Lock}
      (running : state.threads id = .running pc)
      (here : program.statement state.shared pc = .broadcast lock after) :
      Move program state (.step id)
        { state with
          threads :=
            Function.update (Status.wake lock ∘ state.threads) id
              (.running after) }
  | work
      {id : Id}
      {pc after : Local}
      {shared : Shared}
      (running : state.threads id = .running pc)
      (here : program.statement state.shared pc = .work shared after) :
      Move program state (.step id)
        { state with
          shared := shared
          threads := Function.update state.threads id (.running after) }

/-- Each step is one of the moves of a program. -/
theorem move_of_step?
    {program : Program Lock Shared Local}
    {state next : State Id Lock Shared Local}
    {action : Action Id Local}
    (taken : program.step? state action = some next) :
    program.Move state action next := by
  cases action with
  | call id pc =>
      simp only [Program.step?] at taken
      split at taken
      · rename_i current running
        split at taken
        · rename_i here
          split at taken
          · rename_i entry
            cases taken
            exact .call running here entry
          · cases taken
        · cases taken
      · cases taken
  | step id =>
      simp only [Program.step?] at taken
      cases thread : state.threads id with
      | running pc =>
          simp only [thread] at taken
          cases here : program.statement state.shared pc with
          | acquire lock after =>
              simp only [here] at taken
              split at taken
              · rename_i free
                cases taken
                exact .acquire thread here (Option.isNone_iff_eq_none.mp free)
              · cases taken
          | release lock after =>
              simp only [here] at taken
              cases taken
              exact .release thread here
          | condWait lock after =>
              simp only [here] at taken
              cases taken
              exact .condWait thread here
          | broadcast lock after =>
              simp only [here] at taken
              cases taken
              exact .broadcast thread here
          | work shared after =>
              simp only [here] at taken
              cases taken
              exact .work thread here
          | idle | fault =>
              simp only [here] at taken
              cases taken
      | asleep lock pc =>
          simp only [thread] at taken
          cases taken
      | woken lock pc =>
          simp only [thread] at taken
          split at taken
          · rename_i free
            cases taken
            exact .resume thread (Option.isNone_iff_eq_none.mp free)
          · cases taken

/-- Where the statement goes on, `holds` does. -/
def Statement.Leads
    (holds : Shared → Local → Prop)
    (shared : Shared) : Statement Lock Shared Local → Prop
  | .acquire _ next | .release _ next | .condWait _ next
  | .broadcast _ next => holds shared next
  | .work after next => holds after next
  | .idle | .fault => True

/-- The data change by the work of the thread that acts. -/
theorem shared_of_step?
    {program : Program Lock Shared Local}
    {state next : State Id Lock Shared Local}
    {action : Action Id Local}
    (taken : program.step? state action = some next) :
    next.shared = state.shared ∨
      ∃ id pc after,
        action = .step id ∧
          state.threads id = .running pc ∧
          program.statement state.shared pc = .work next.shared after := by
  cases move_of_step? taken with
  | work running here => exact .inr ⟨_, _, _, rfl, running, here⟩
  | _ => exact .inl rfl

/-- A thread goes on where it is while another one acts. -/
theorem pc_of_other
    {program : Program Lock Shared Local}
    {state next : State Id Lock Shared Local}
    {action : Action Id Local}
    {id : Id}
    (taken : program.step? state action = some next)
    (other : id ≠ action.thread) :
    (next.threads id).pc = (state.threads id).pc := by
  cases move_of_step? taken with
  | call running here entry | acquire running here free
  | resume woken free | release running here | condWait running here
  | broadcast running here | work running here =>
      simp only [Action.thread] at other
      simp [other]

/-- A broadcast is all that one thread does to another one. -/
theorem threads_of_other
    {program : Program Lock Shared Local}
    {state next : State Id Lock Shared Local}
    {action : Action Id Local}
    {id : Id}
    (taken : program.step? state action = some next)
    (other : id ≠ action.thread) :
    next.threads id = state.threads id ∨
      ∃ pc lock after,
        state.threads action.thread = .running pc ∧
          program.statement state.shared pc = .broadcast lock after ∧
          next.threads id = (state.threads id).wake lock := by
  cases move_of_step? taken with
  | broadcast running here =>
      exact .inr ⟨_, _, _, running, here, Function.update_of_ne other _ _⟩
  | call running here entry | acquire running here free
  | resume woken free | release running here | condWait running here
  | work running here =>
      exact .inl (Function.update_of_ne other _ _)

/-- Who waits has gone to sleep at a wait. -/
theorem waits_of_step?
    {program : Program Lock Shared Local}
    {state next : State Id Lock Shared Local}
    {action : Action Id Local}
    {id : Id}
    {lock : Lock}
    {pc : Local}
    (taken : program.step? state action = some next)
    (waits : (next.threads id).waits? = some (lock, pc)) :
    id ≠ action.thread ∧ (state.threads id).waits? = some (lock, pc) ∨
      ∃ here,
        action = .step id ∧
          state.threads id = .running here ∧
          program.statement state.shared here = .condWait lock pc := by
  by_cases own : id = action.thread
  · subst own
    cases move_of_step? taken with
    | condWait running here =>
        simp only [Action.thread, Function.update_self, Status.waits?] at waits
        cases waits
        exact .inr ⟨_, rfl, running, here⟩
    | call running here entry | acquire running here free
    | resume woken free | release running here | broadcast running here
    | work running here =>
        simp [Action.thread, Status.waits?] at waits
  · refine .inl ⟨own, ?_⟩
    rcases threads_of_other taken own with same | ⟨_, _, _, -, -, woken⟩
    · rwa [same] at waits
    · rwa [woken, Status.waits?_wake] at waits

/-- A step goes where its statement leads. -/
theorem leads_of_step?
    {program : Program Lock Shared Local}
    {holds : Shared → Local → Prop}
    {state next : State Id Lock Shared Local}
    {id : Id}
    {pc : Local}
    (taken : program.step? state (.step id) = some next)
    (running : state.threads id = .running pc)
    (leads :
      (program.statement state.shared pc).Leads holds state.shared) :
    holds next.shared (next.threads id).pc := by
  cases move_of_step? taken with
  | resume woken free => cases running.symm.trans woken
  | acquire here is free | release here is | condWait here is
  | broadcast here is | work here is =>
      cases running.symm.trans here
      rw [is] at leads
      simpa [Status.pc, Statement.Leads] using leads

/-- A thread runs after its step where a call, a wait or a statement goes on. -/
theorem comes_of_running
    {program : Program Lock Shared Local}
    {comes : Local → Shared → Local → Prop}
    {state next : State Id Lock Shared Local}
    {action : Action Id Local}
    {pc : Local}
    (leads :
      ∀ here,
        (program.statement state.shared here).Leads (comes here)
          state.shared)
    (taken : program.step? state action = some next)
    (running : next.threads action.thread = .running pc) :
    program.entry pc = true ∨
      (∃ lock, state.threads action.thread = .woken lock pc) ∨
      ∃ id here,
        action = .step id ∧
          state.threads id = .running here ∧
          comes here next.shared pc := by
  cases move_of_step? taken with
  | call before here entry =>
      simp only [Action.thread, Function.update_self] at running
      cases running
      exact .inl entry
  | resume woken free =>
      simp only [Action.thread, Function.update_self] at running
      cases running
      exact .inr (.inl ⟨_, woken⟩)
  | acquire before here | release before here | condWait before here
  | broadcast before here | work before here =>
      refine .inr (.inr ⟨_, _, rfl, before, ?_⟩)
      have goesOn := leads_of_step? taken before (leads _)
      simp only [Action.thread] at running
      simp only [running] at goesOn
      exact goesOn

/-- Step lemma, for what holds at the control points of all threads. -/
theorem pcs_step
    {program : Program Lock Shared Local}
    {holds : Shared → Local → Prop}
    {state next : State Id Lock Shared Local}
    {action : Action Id Local}
    (everywhere : ∀ id, holds state.shared (state.threads id).pc)
    (begins : ∀ pc, program.entry pc = true → holds state.shared pc)
    (leads :
      ∀ pc,
        state.threads action.thread = .running pc →
        (program.statement state.shared pc).Leads holds state.shared)
    (framed :
      ∀ pc, holds state.shared pc → holds next.shared pc)
    (taken : program.step? state action = some next)
    (id : Id) :
    holds next.shared (next.threads id).pc := by
  by_cases own : id = action.thread
  · subst own
    cases move_of_step? taken with
    | call running here entry =>
        simpa [Action.thread, Status.pc] using begins _ entry
    | @resume other pc lock woken free =>
        have stays := everywhere other
        rw [woken] at stays
        simpa [Action.thread, Status.pc] using stays
    | acquire running here free | release running here
    | condWait running here | broadcast running here | work running here =>
        exact leads_of_step? taken running (leads _ running)
  · rw [pc_of_other taken own]
    exact framed _ (everywhere id)

end Semantics

section Ownership

/-- The locks that a thread holds; in a queue it holds none. -/
def Program.holds
    (program : Program Lock Shared Local)
    (shared : Shared) : Status Lock Local → List Lock
  | .running pc => program.held shared pc
  | .asleep _ _ | .woken _ _ => []

/-- A thread that has waited goes on with the lock it waited with. -/
def Program.Resumes
    (program : Program Lock Shared Local)
    (shared : Shared) : Status Lock Local → Prop
  | .running _ => True
  | .asleep lock pc | .woken lock pc => program.held shared pc = [lock]

/-- The owners of the locks are the threads that hold them. -/
structure Owned
    (program : Program Lock Shared Local)
    (state : State Id Lock Shared Local) : Prop where
  owner :
    ∀ lock id,
      state.owner lock = some id ↔
        lock ∈ program.holds state.shared (state.threads id)
  resumes : ∀ id, program.Resumes state.shared (state.threads id)

/--
The statement takes and gives back locks as `held` says, and takes a lock only
where `before` puts it behind all that are held.
-/
def Program.Sound
    (program : Program Lock Shared Local)
    (before : Lock → Lock → Prop)
    (shared : Shared)
    (pc : Local) : Prop :=
  match program.statement shared pc with
  | .acquire lock next =>
      program.held shared next = lock :: program.held shared pc ∧
        ∀ other ∈ program.held shared pc, before other lock
  | .release lock next =>
      program.held shared pc = lock :: program.held shared next ∧
        lock ∉ program.held shared next
  | .condWait lock next =>
      program.held shared pc = [lock] ∧ program.held shared next = [lock]
  | .broadcast _ next => program.held shared next = program.held shared pc
  | .work after next => program.held after next = program.held shared pc
  | .idle => program.held shared pc = []
  | .fault => False

variable {program : Program Lock Shared Local}

@[simp] theorem holds_wake
    [DecidableEq Lock]
    (lock : Lock)
    (shared : Shared)
    (status : Status Lock Local) :
    program.holds shared (status.wake lock) = program.holds shared status := by
  cases status with
  | asleep other pc =>
      simp only [Status.wake]
      split <;> rfl
  | running pc | woken other pc => rfl

@[simp] theorem resumes_wake
    [DecidableEq Lock]
    (lock : Lock)
    (shared : Shared)
    (status : Status Lock Local) :
    program.Resumes shared (status.wake lock) ↔
      program.Resumes shared status := by
  cases status with
  | asleep other pc =>
      simp only [Status.wake]
      split <;> rfl
  | running pc | woken other pc => rfl

/-- What a thread holds depends on the data through its control point only. -/
theorem holds_of_held
    {shared later : Shared}
    {status : Status Lock Local}
    (same : program.held later status.pc = program.held shared status.pc) :
    program.holds later status = program.holds shared status := by
  cases status with
  | running pc => exact same
  | asleep lock pc | woken lock pc => rfl

/-- Where a thread goes on depends on the locks at its control point. -/
theorem resumes_of_held
    {shared later : Shared}
    {status : Status Lock Local}
    (same : program.held later status.pc = program.held shared status.pc)
    (resumes : program.Resumes shared status) :
    program.Resumes later status := by
  cases status with
  | running pc => trivial
  | asleep lock pc | woken lock pc => exact same.trans resumes

theorem owned_boot
    {shared : Shared}
    {pc : Local}
    (outside : program.held shared pc = []) :
    Owned program (boot shared pc : State Id Lock Shared Local) where
  owner lock id := by simp [boot, Program.holds, outside]
  resumes _ := trivial

variable [DecidableEq Id] {state : State Id Lock Shared Local} {id : Id}

/-- A statement that keeps the locks where they are. -/
theorem Owned.stays
    {shared : Shared}
    {after : Local}
    (owned : Owned program state)
    (same :
      program.held shared after =
        program.holds state.shared (state.threads id))
    (framed :
      ∀ other,
        other ≠ id →
        program.held shared (state.threads other).pc =
          program.held state.shared (state.threads other).pc) :
    Owned program
      { state with
        shared := shared
        threads := Function.update state.threads id (.running after) } where
  owner lock other := by
    by_cases own : other = id
    · subst own
      simpa [Program.holds, same] using owned.owner lock other
    · simpa [own, holds_of_held (framed other own)] using
        owned.owner lock other
  resumes other := by
    by_cases own : other = id
    · subst own
      simp [Program.Resumes]
    · simpa [own] using
        resumes_of_held (framed other own) (owned.resumes other)

variable [DecidableEq Lock]

/-- A thread takes a lock that nobody has. -/
theorem Owned.enters
    {lock : Lock}
    {after : Local}
    (owned : Owned program state)
    (free : state.owner lock = none)
    (takes :
      program.held state.shared after =
        lock :: program.holds state.shared (state.threads id)) :
    Owned program
      { state with
        owner := Function.update state.owner lock (some id)
        threads := Function.update state.threads id (.running after) } where
  owner place other := by
    have before := owned.owner place other
    by_cases here : place = lock
    · subst here
      rw [free] at before
      by_cases own : other = id
      · subst own
        simp [Program.holds, takes]
      · simpa [own, Ne.symm own] using before
    · by_cases own : other = id
      · subst own
        simpa [here, Program.holds, takes] using before
      · simpa [here, own] using before
  resumes other := by
    by_cases own : other = id
    · subst own
      simp [Program.Resumes]
    · simpa [own] using owned.resumes other

/-- The owner gives a lock back. -/
theorem Owned.leaves
    {lock : Lock}
    {status : Status Lock Local}
    (owned : Owned program state)
    (gives :
      program.holds state.shared (state.threads id) =
        lock :: program.holds state.shared status)
    (once : lock ∉ program.holds state.shared status)
    (resumes : program.Resumes state.shared status) :
    Owned program
      { state with
        owner := Function.update state.owner lock none
        threads := Function.update state.threads id status } where
  owner place other := by
    have before := owned.owner place other
    have had : state.owner lock = some id :=
      (owned.owner lock id).mpr (by simp [gives])
    by_cases here : place = lock
    · subst here
      by_cases own : other = id
      · subst own
        simp [once]
      · rw [had] at before
        simpa [own, Ne.symm own] using before
    · by_cases own : other = id
      · subst own
        simpa [here, gives] using before
      · simpa [here, own] using before
  resumes other := by
    by_cases own : other = id
    · subst own
      simpa using resumes
    · simpa [own] using owned.resumes other

omit [DecidableEq Id] in
/-- To wake threads changes nothing for the locks. -/
theorem Owned.wakes
    (owned : Owned program state)
    (lock : Lock) :
    Owned program
      { state with threads := Status.wake lock ∘ state.threads } where
  owner place other := by simpa using owned.owner place other
  resumes other := by simpa using owned.resumes other

/-- Step lemma, for threads that go by the order of the locks. -/
theorem owned_step
    {before : Lock → Lock → Prop}
    {next : State Id Lock Shared Local}
    {action : Action Id Local}
    (owned : Owned program state)
    (sound :
      ∀ id pc,
        state.threads id = .running pc →
        program.Sound before state.shared pc)
    (framed :
      ∀ id,
        id ≠ action.thread →
        program.held next.shared (state.threads id).pc =
          program.held state.shared (state.threads id).pc)
    (taken : program.step? state action = some next) :
    Owned program next := by
  cases move_of_step? taken with
  | @call id current pc running here entry =>
      have correct := sound id current running
      simp only [Program.Sound, here] at correct
      refine owned.stays ?_ fun _ _ => rfl
      rw [running, program.entry_outside _ _ entry]
      exact correct.symm
  | @acquire id pc after lock running here free =>
      have correct := sound id pc running
      simp only [Program.Sound, here] at correct
      exact owned.enters free (by rw [running]; exact correct.1)
  | @resume id pc lock woken free =>
      have resumes := owned.resumes id
      rw [woken] at resumes
      exact owned.enters free (by rw [woken]; exact resumes)
  | @release id pc after lock running here =>
      have correct := sound id pc running
      simp only [Program.Sound, here] at correct
      exact owned.leaves (by rw [running]; exact correct.1) correct.2 trivial
  | @condWait id pc after lock running here =>
      have correct := sound id pc running
      simp only [Program.Sound, here] at correct
      exact owned.leaves (by rw [running]; exact correct.1) (List.not_mem_nil)
        correct.2
  | @broadcast id pc after lock running here =>
      have correct := sound id pc running
      simp only [Program.Sound, here] at correct
      refine (owned.wakes lock).stays ?_ fun _ _ => rfl
      change _ = program.holds state.shared ((state.threads id).wake lock)
      rw [holds_wake, running]
      exact correct
  | @work id pc after shared running here =>
      have correct := sound id pc running
      simp only [Program.Sound, here] at correct
      exact owned.stays (by rw [running]; exact correct) framed

/-- No thread that cannot go on has a lock. -/
theorem Owned.free_of_stuck
    {before : Lock → Lock → Prop}
    (ends : WellFounded (flip before))
    (owned : Owned program state)
    (sound :
      ∀ id pc,
        state.threads id = .running pc →
        program.Sound before state.shared pc)
    (stuck : ∀ id, program.step? state (.step id) = none)
    (lock : Lock) :
    state.owner lock = none := by
  -- By induction on the locks that may be taken while this one is held.
  induction lock using ends.induction with
  | _ lock laterFree =>
      cases had : state.owner lock with
      | none => rfl
      | some id =>
          have holds := (owned.owner lock id).mp had
          have still := stuck id
          cases thread : state.threads id with
          | asleep other pc | woken other pc =>
              rw [thread] at holds
              cases holds
          | running pc =>
              rw [thread] at holds
              have correct := sound id pc thread
              simp only [Program.step?, thread] at still
              cases here : program.statement state.shared pc with
              | acquire other after =>
                  simp only [Program.Sound, here] at correct
                  have free := laterFree other (correct.2 lock holds)
                  simp only [here, free, Option.isNone_none] at still
                  cases still
              | idle =>
                  simp only [Program.Sound, here] at correct
                  simp only [Program.holds, correct] at holds
                  cases holds
              | fault =>
                  simp only [Program.Sound, here] at correct
              | release other after | condWait other after
              | broadcast other after | work shared after =>
                  simp only [here] at still
                  cases still

/-- No deadlock: threads that cannot go on are in no call, or asleep. -/
theorem Owned.rests_of_stuck
    {before : Lock → Lock → Prop}
    (ends : WellFounded (flip before))
    (owned : Owned program state)
    (sound :
      ∀ id pc,
        state.threads id = .running pc →
        program.Sound before state.shared pc)
    (stuck : ∀ id, program.step? state (.step id) = none)
    (id : Id) :
    (∃ pc,
        state.threads id = .running pc ∧
          program.statement state.shared pc = .idle) ∨
      ∃ lock pc, state.threads id = .asleep lock pc := by
  have free := owned.free_of_stuck ends sound stuck
  have still := stuck id
  cases thread : state.threads id with
  | asleep lock pc => exact .inr ⟨lock, pc, rfl⟩
  | woken lock pc =>
      simp only [Program.step?, thread, free lock, Option.isNone_none] at still
      cases still
  | running pc =>
      refine .inl ⟨pc, rfl, ?_⟩
      have correct := sound id pc thread
      simp only [Program.step?, thread] at still
      cases here : program.statement state.shared pc with
      | idle => rfl
      | acquire lock after =>
          simp only [here, free lock, Option.isNone_none] at still
          cases still
      | fault =>
          simp only [Program.Sound, here] at correct
      | release lock after | condWait lock after | broadcast lock after
      | work shared after =>
          simp only [here] at still
          cases still

end Ownership

end EPuckTavern.Transition.LockOrder
