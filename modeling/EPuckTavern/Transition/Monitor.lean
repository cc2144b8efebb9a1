import Mathlib.Logic.Function.Basic
import EPuckTavern.Transition.Run

namespace EPuckTavern.Transition.Monitor

/-!
# Threads that share data under one lock

Each thread takes the lock, works on the data that it guards, may wait on the
lock's condition variable or wake the threads that do, and gives the lock
back.  A thread that is woken needs the lock again before it goes on, and
nothing but a broadcast wakes it.
-/

variable {Id Shared Local : Type}

/-- What the statement at a control point does. -/
inductive Statement (Shared Local : Type) where
  | acquire (next : Local)
  | release (next : Local)
  | condWait (next : Local)
  | broadcast (next : Local)
  /-- On the shared data, with the lock or without it. -/
  | work (run : Shared → Shared × Local)
  /-- On the thread's own data. -/
  | own (next : Local)
  /-- No call is in progress. -/
  | idle

/-- The statement takes, keeps and gives back the lock where it may. -/
def Statement.Coherent
    (inside : Local → Bool)
    (pc : Local) : Statement Shared Local → Prop
  | .acquire next => inside pc = false ∧ inside next = true
  | .release next => inside pc = true ∧ inside next = false
  | .condWait next | .broadcast next =>
      inside pc = true ∧ inside next = true
  | .work run => ∀ shared, inside (run shared).2 = inside pc
  | .own next => inside next = inside pc
  | .idle => inside pc = false

/-- The calls that threads make, with the part of them inside the lock. -/
structure Program (Shared Local : Type) where
  statement : Local → Statement Shared Local
  inside : Local → Bool
  /-- A call begins here. -/
  entry : Local → Bool
  coherent : ∀ pc, (statement pc).Coherent inside pc
  entry_outside : ∀ pc, entry pc = true → inside pc = false

/-- Where a thread stands, and whether it sleeps there. -/
inductive Status (Local : Type) where
  | running (pc : Local)
  /-- In the condition variable's queue. -/
  | asleep (pc : Local)
  /-- Out of the queue, without the lock yet. -/
  | woken (pc : Local)
  deriving Repr, DecidableEq

/-- What a broadcast does to a thread. -/
def Status.wake : Status Local → Status Local
  | .asleep pc => .woken pc
  | other => other

@[simp] theorem Status.wake_eq_running
    {status : Status Local}
    {pc : Local} :
    status.wake = .running pc ↔ status = .running pc := by
  cases status <;> simp [Status.wake]

@[simp] theorem Status.wake_ne_asleep
    (status : Status Local)
    (pc : Local) :
    status.wake ≠ .asleep pc := by
  cases status <;> simp [Status.wake]

@[simp] theorem Status.wake_eq_woken
    {status : Status Local}
    {pc : Local} :
    status.wake = .woken pc ↔
      status = .asleep pc ∨ status = .woken pc := by
  cases status <;> simp [Status.wake]

/-- What the lock guards, who owns it, and the threads. -/
structure State (Id Shared Local : Type) where
  shared : Shared
  owner : Option Id
  threads : Id → Status Local

/-- No thread is in a call. -/
def boot
    (shared : Shared)
    (pc : Local) : State Id Shared Local where
  shared := shared
  owner := none
  threads _ := .running pc

/-- A call, or the next statement of a thread. -/
inductive Action (Id Local : Type) where
  | call (id : Id) (pc : Local)
  | step (id : Id)
  deriving Repr, DecidableEq

/-- The thread that acts. -/
def Action.thread : Action Id Local → Id
  | .call id _ | .step id => id

section Semantics

variable [DecidableEq Id]

/-- A statement of one thread. -/
def Action.isStepOf (id : Id) : Action Id Local → Bool
  | .call _ _ => false
  | .step other => other = id

/-- A thread without a call begins one; the rest is left alone. -/
def Program.called?
    (program : Program Shared Local)
    (threads : Id → Status Local)
    (id : Id)
    (pc : Local) : Option (Id → Status Local) :=
  match threads id with
  | .running current =>
      match program.statement current with
      | .idle =>
          if program.entry pc then
            some (Function.update threads id (.running pc))
          else
            none
      | _ => none
  | _ => none

/-- A statement that cannot go on, at a lock in other hands, is no step. -/
def Program.step?
    (program : Program Shared Local) :
    Step (State Id Shared Local) (Action Id Local)
  | state, .call id pc =>
      (program.called? state.threads id pc).map fun threads =>
        { state with threads := threads }
  | state, .step id =>
      match state.threads id with
      | .running pc =>
          match program.statement pc with
          | .acquire next =>
              if state.owner.isNone then
                some { state with
                  owner := some id
                  threads :=
                    Function.update state.threads id (.running next) }
              else
                none
          | .release next =>
              some { state with
                owner := none
                threads :=
                  Function.update state.threads id (.running next) }
          | .condWait next =>
              some { state with
                owner := none
                threads :=
                  Function.update state.threads id (.asleep next) }
          | .broadcast next =>
              some { state with
                threads :=
                  Function.update (Status.wake ∘ state.threads) id
                    (.running next) }
          | .work run =>
              some { state with
                shared := (run state.shared).1
                threads :=
                  Function.update state.threads id
                    (.running (run state.shared).2) }
          | .own next =>
              some { state with
                threads :=
                  Function.update state.threads id (.running next) }
          | .idle => none
      | .asleep _ => none
      | .woken pc =>
          if state.owner.isNone then
            some { state with
              owner := some id
              threads := Function.update state.threads id (.running pc) }
          else
            none

/-- A thread that leaves the lock tells where it leaves it. -/
def Program.emit
    (program : Program Shared Local)
    (state : State Id Shared Local) :
    Action Id Local → List (Id × Local)
  | .call _ _ => []
  | .step id =>
      match state.threads id with
      | .running pc =>
          match program.statement pc with
          | .release _ | .condWait _ => [(id, pc)]
          | _ => []
      | _ => []

/-- What a step can do, one case for each kind of statement. -/
inductive Program.Move
    (program : Program Shared Local)
    (state : State Id Shared Local) :
    Action Id Local → State Id Shared Local → Prop where
  | call
      {id : Id}
      {pc : Local}
      {threads : Id → Status Local}
      (called : program.called? state.threads id pc = some threads) :
      Move program state (.call id pc) { state with threads := threads }
  | acquire
      {id : Id}
      {pc after : Local}
      (running : state.threads id = .running pc)
      (here : program.statement pc = .acquire after)
      (free : state.owner = none) :
      Move program state (.step id)
        { state with
          owner := some id
          threads := Function.update state.threads id (.running after) }
  | resume
      {id : Id}
      {pc : Local}
      (woken : state.threads id = .woken pc)
      (free : state.owner = none) :
      Move program state (.step id)
        { state with
          owner := some id
          threads := Function.update state.threads id (.running pc) }
  | release
      {id : Id}
      {pc after : Local}
      (running : state.threads id = .running pc)
      (here : program.statement pc = .release after) :
      Move program state (.step id)
        { state with
          owner := none
          threads := Function.update state.threads id (.running after) }
  | condWait
      {id : Id}
      {pc after : Local}
      (running : state.threads id = .running pc)
      (here : program.statement pc = .condWait after) :
      Move program state (.step id)
        { state with
          owner := none
          threads := Function.update state.threads id (.asleep after) }
  | broadcast
      {id : Id}
      {pc after : Local}
      (running : state.threads id = .running pc)
      (here : program.statement pc = .broadcast after) :
      Move program state (.step id)
        { state with
          threads :=
            Function.update (Status.wake ∘ state.threads) id
              (.running after) }
  | work
      {id : Id}
      {pc : Local}
      {run : Shared → Shared × Local}
      (running : state.threads id = .running pc)
      (here : program.statement pc = .work run) :
      Move program state (.step id)
        { state with
          shared := (run state.shared).1
          threads :=
            Function.update state.threads id
              (.running (run state.shared).2) }
  | own
      {id : Id}
      {pc after : Local}
      (running : state.threads id = .running pc)
      (here : program.statement pc = .own after) :
      Move program state (.step id)
        { state with
          threads := Function.update state.threads id (.running after) }

/-- Each step is one of the moves of a program. -/
theorem move_of_step?
    {program : Program Shared Local}
    {state next : State Id Shared Local}
    {action : Action Id Local}
    (taken : program.step? state action = some next) :
    program.Move state action next := by
  cases action with
  | call id pc =>
      obtain ⟨threads, called, rfl⟩ := Option.map_eq_some_iff.mp taken
      exact .call called
  | step id =>
      simp only [Program.step?] at taken
      cases thread : state.threads id with
      | running pc =>
          simp only [thread] at taken
          cases here : program.statement pc with
          | acquire after =>
              simp only [here] at taken
              split at taken
              · rename_i free
                cases taken
                exact .acquire thread here (Option.isNone_iff_eq_none.mp free)
              · cases taken
          | release after =>
              simp only [here] at taken
              cases taken
              exact .release thread here
          | condWait after =>
              simp only [here] at taken
              cases taken
              exact .condWait thread here
          | broadcast after =>
              simp only [here] at taken
              cases taken
              exact .broadcast thread here
          | work run =>
              simp only [here] at taken
              cases taken
              exact .work thread here
          | own after =>
              simp only [here] at taken
              cases taken
              exact .own thread here
          | idle =>
              simp only [here] at taken
              cases taken
      | asleep pc =>
          simp only [thread] at taken
          cases taken
      | woken pc =>
          simp only [thread] at taken
          split at taken
          · rename_i free
            cases taken
            exact .resume thread (Option.isNone_iff_eq_none.mp free)
          · cases taken

/-- A call is begun where none is in progress. -/
theorem called?_eq_some
    {program : Program Shared Local}
    {threads after : Id → Status Local}
    {id : Id}
    {pc : Local}
    (called : program.called? threads id pc = some after) :
    ∃ current,
      threads id = .running current ∧
        program.statement current = .idle ∧
        program.entry pc = true ∧
        after = Function.update threads id (.running pc) := by
  simp only [Program.called?] at called
  split at called
  · rename_i current running
    split at called
    · rename_i idle
      split at called
      · rename_i entry
        exact ⟨current, running, idle, entry, (Option.some.inj called).symm⟩
      · cases called
    · cases called
  · cases called

/-- What other threads do to a thread is to wake it. -/
theorem threads_of_other
    {program : Program Shared Local}
    {state next : State Id Shared Local}
    {action : Action Id Local}
    {id : Id}
    (taken : program.step? state action = some next)
    (other : action.thread ≠ id) :
    next.threads id = state.threads id ∨
      next.threads id = (state.threads id).wake := by
  have different : id ≠ action.thread := Ne.symm other
  cases move_of_step? taken with
  | call called =>
      obtain ⟨current, -, -, -, rfl⟩ := called?_eq_some called
      exact .inl (Function.update_of_ne different _ _)
  | broadcast running here =>
      exact .inr (Function.update_of_ne different _ _)
  | acquire running here free | resume woken free | release running here
  | condWait running here | work running here | own running here =>
      exact .inl (Function.update_of_ne different _ _)

end Semantics

section Exclusion

variable [DecidableEq Id]

/-- The owner of the lock is the one thread inside it. -/
structure Exclusive
    (program : Program Shared Local)
    (state : State Id Shared Local) : Prop where
  owner :
    ∀ id,
      state.owner = some id →
      ∃ pc,
        state.threads id = .running pc ∧ program.inside pc = true
  only :
    ∀ id pc,
      state.threads id = .running pc →
      program.inside pc = true →
      state.owner = some id
  /-- A thread that has waited goes on inside the lock. -/
  resumes :
    ∀ id pc,
      state.threads id = .asleep pc ∨ state.threads id = .woken pc →
      program.inside pc = true

omit [DecidableEq Id] in
theorem exclusive_boot
    {program : Program Shared Local}
    {pc : Local}
    (shared : Shared)
    (idle : program.statement pc = .idle) :
    Exclusive program (boot shared pc : State Id Shared Local) where
  owner _ impossible := by cases impossible
  only id other running inside := by
    cases running
    have outside := program.coherent pc
    rw [idle] at outside
    exact absurd (outside.symm.trans inside) Bool.false_ne_true
  resumes _ _ impossible := by
    rcases impossible with impossible | impossible <;> cases impossible

/-- A statement that keeps the lock where it is. -/
theorem Exclusive.stays
    {program : Program Shared Local}
    {state : State Id Shared Local}
    {id : Id}
    {pc after : Local}
    (exclusive : Exclusive program state)
    (running : state.threads id = .running pc)
    (same : program.inside after = program.inside pc)
    (shared : Shared) :
    Exclusive program
      { state with
        shared := shared
        threads := Function.update state.threads id (.running after) } where
  owner other owns := by
    obtain ⟨current, thread, inside⟩ := exclusive.owner other owns
    by_cases own : other = id
    · subst own
      cases running.symm.trans thread
      exact ⟨after, by simp, same.trans inside⟩
    · exact ⟨current, by simp [own, thread], inside⟩
  only other current thread inside := by
    by_cases own : other = id
    · subst own
      simp only [Function.update_self, Status.running.injEq] at thread
      exact exclusive.only other pc running (by rw [← same, thread, inside])
    · simp only [Function.update_of_ne own] at thread
      exact exclusive.only other current thread inside
  resumes other current thread := by
    by_cases own : other = id
    · subst own
      simp at thread
    · simp only [Function.update_of_ne own] at thread
      exact exclusive.resumes other current thread

/-- A thread takes the lock that nobody has. -/
theorem Exclusive.enters
    {program : Program Shared Local}
    {state : State Id Shared Local}
    {after : Local}
    (exclusive : Exclusive program state)
    (free : state.owner = none)
    (id : Id)
    (inside : program.inside after = true) :
    Exclusive program
      { state with
        owner := some id
        threads := Function.update state.threads id (.running after) } where
  owner other owns := by
    cases owns
    exact ⟨after, by simp, inside⟩
  only other current thread here := by
    by_cases own : other = id
    · rw [own]
    · simp only [Function.update_of_ne own] at thread
      exact absurd (exclusive.only other current thread here) (by simp [free])
  resumes other current thread := by
    by_cases own : other = id
    · subst own
      simp at thread
    · simp only [Function.update_of_ne own] at thread
      exact exclusive.resumes other current thread

/-- The owner gives the lock back. -/
theorem Exclusive.leaves
    {program : Program Shared Local}
    {state : State Id Shared Local}
    {id : Id}
    {pc : Local}
    {status : Status Local}
    (exclusive : Exclusive program state)
    (running : state.threads id = .running pc)
    (inside : program.inside pc = true)
    (outside : ∀ after, status = .running after → program.inside after = false)
    (waits :
      ∀ after,
        status = .asleep after ∨ status = .woken after →
        program.inside after = true) :
    Exclusive program
      { state with
        owner := none
        threads := Function.update state.threads id status } where
  owner _ impossible := by cases impossible
  only other current thread here := by
    by_cases own : other = id
    · subst own
      simp only [Function.update_self] at thread
      exact absurd (outside current thread) (by simp [here])
    · simp only [Function.update_of_ne own] at thread
      have owned := exclusive.only id pc running inside
      rw [exclusive.only other current thread here] at owned
      exact (own (Option.some.inj owned)).elim
  resumes other current thread := by
    by_cases own : other = id
    · subst own
      simp only [Function.update_self] at thread
      exact waits current thread
    · simp only [Function.update_of_ne own] at thread
      exact exclusive.resumes other current thread

omit [DecidableEq Id] in
/-- To wake threads changes nothing for the lock. -/
theorem Exclusive.wakes
    {program : Program Shared Local}
    {state : State Id Shared Local}
    (exclusive : Exclusive program state) :
    Exclusive program
      { state with threads := Status.wake ∘ state.threads } where
  owner other owns := by
    obtain ⟨current, thread, inside⟩ := exclusive.owner other owns
    exact ⟨current, by simp [thread], inside⟩
  only other current thread inside :=
    exclusive.only other current (by simpa using thread) inside
  resumes other current thread :=
    exclusive.resumes other current (by simpa using thread)

/-- Each step leaves at most its owner inside the lock. -/
theorem exclusive_step
    {program : Program Shared Local}
    {state next : State Id Shared Local}
    {action : Action Id Local}
    (exclusive : Exclusive program state)
    (taken : program.step? state action = some next) :
    Exclusive program next := by
  cases move_of_step? taken with
  | @call id pc threads called =>
      obtain ⟨current, running, idle, entry, rfl⟩ := called?_eq_some called
      have outside := program.coherent current
      rw [idle] at outside
      exact exclusive.stays running
        ((program.entry_outside pc entry).trans outside.symm) state.shared
  | @acquire id pc after running here free =>
      have coherent := program.coherent pc
      rw [here] at coherent
      exact exclusive.enters free id coherent.2
  | @resume id pc woken free =>
      exact exclusive.enters free id (exclusive.resumes id pc (.inr woken))
  | @release id pc after running here =>
      have coherent := program.coherent pc
      rw [here] at coherent
      exact exclusive.leaves running coherent.1
        (fun _ same => by cases same; exact coherent.2)
        (fun _ impossible => by rcases impossible with h | h <;> cases h)
  | @condWait id pc after running here =>
      have coherent := program.coherent pc
      rw [here] at coherent
      exact exclusive.leaves running coherent.1
        (fun _ impossible => by cases impossible)
        (fun _ same => by
          rcases same with same | impossible
          · cases same
            exact coherent.2
          · cases impossible)
  | @broadcast id pc after running here =>
      have coherent := program.coherent pc
      rw [here] at coherent
      exact exclusive.wakes.stays (by simpa using running)
        (coherent.2.trans coherent.1.symm) state.shared
  | @work id pc run running here =>
      have coherent := program.coherent pc
      rw [here] at coherent
      exact exclusive.stays running (coherent state.shared) _
  | @own id pc after running here =>
      have coherent := program.coherent pc
      rw [here] at coherent
      exact exclusive.stays running coherent state.shared

/-- Mutual exclusion, in every run. -/
theorem exclusive_of_reachable
    {program : Program Shared Local}
    {shared : Shared}
    {pc : Local}
    {state : State Id Shared Local}
    (idle : program.statement pc = .idle)
    (reachable : Reachable program.step? (boot shared pc) state) :
    Exclusive program state :=
  reachable.invariant exclusive_step (exclusive_boot shared idle)

/-- The thread inside the lock can always go on. -/
theorem exists_step_of_inside
    {program : Program Shared Local}
    {state : State Id Shared Local}
    {id : Id}
    {pc : Local}
    (running : state.threads id = .running pc)
    (inside : program.inside pc = true) :
    ∃ next, program.step? state (.step id) = some next := by
  have coherent := program.coherent pc
  cases here : program.statement pc with
  | acquire after =>
      rw [here] at coherent
      exact absurd (coherent.1.symm.trans inside) Bool.false_ne_true
  | idle =>
      rw [here] at coherent
      exact absurd (Eq.trans (Eq.symm coherent) inside) Bool.false_ne_true
  | release after | condWait after | broadcast after | work run | own after =>
      simp only [Program.step?, running, here]
      exact ⟨_, rfl⟩

/-- If no thread can take a step, then none is inside the lock. -/
theorem Exclusive.free_of_stuck
    {program : Program Shared Local}
    {state : State Id Shared Local}
    (exclusive : Exclusive program state)
    (stuck : ∀ id, program.step? state (.step id) = none) :
    state.owner = none := by
  cases owned : state.owner with
  | none => rfl
  | some owner =>
      obtain ⟨pc, running, inside⟩ := exclusive.owner owner owned
      obtain ⟨next, taken⟩ := exists_step_of_inside running inside
      cases (stuck owner).symm.trans taken

/-- No deadlock: threads that cannot go on are in no call, or asleep. -/
theorem Exclusive.rests_of_stuck
    {program : Program Shared Local}
    {state : State Id Shared Local}
    (exclusive : Exclusive program state)
    (stuck : ∀ id, program.step? state (.step id) = none)
    (id : Id) :
    (∃ pc, state.threads id = .running pc ∧ program.statement pc = .idle) ∨
      ∃ pc, state.threads id = .asleep pc := by
  have free := exclusive.free_of_stuck stuck
  have still := stuck id
  cases thread : state.threads id with
  | asleep pc => exact .inr ⟨pc, rfl⟩
  | woken pc =>
      simp only [Program.step?, thread, free, Option.isNone_none] at still
      cases still
  | running pc =>
      refine .inl ⟨pc, rfl, ?_⟩
      cases here : program.statement pc with
      | idle => rfl
      | acquire after =>
          simp only [Program.step?, thread, here, free,
            Option.isNone_none] at still
          cases still
      | release after | condWait after | broadcast after | work run
      | own after =>
          simp only [Program.step?, thread, here] at still
          cases still

end Exclusion

end EPuckTavern.Transition.Monitor
