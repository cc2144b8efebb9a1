import EPuckTavern.Transition.Run

namespace EPuckTavern

open Transition

/-!
# Life cycle of the Scan, Beer and PidRegulator workers

The three workers follow one protocol.  The start function does nothing while
`thd_exist` is set; otherwise it stores the flags in an order of its own and
calls `chThdCreateStatic`.  The worker polls `must_stop` at the head of its
loop, and on each of its ways out it clears `thd_exist` and then calls
`chThdExit`.

This module states the protocol without any of the workers' code: `Stage` is
the abstract life cycle, `Stage.Moves` what one step may do in it, and
`WorkerProgram` a concrete worker together with the proof that its steps are
such moves.  The interleaving of a caller with all workers it has ever
created is then one system for all three.
-/

/-- The file-static flags that caller and worker share. -/
structure WorkerFlags where
  thdExist : Bool
  mustStop : Bool
  /-- `good_color`, `beer_gotten` or `is_done`. -/
  done : Bool
  deriving Repr, DecidableEq

/-- No flag is up when the robot starts. -/
def WorkerFlags.initial : WorkerFlags :=
  ⟨false, false, false⟩

/-- The flags that a start function stores. -/
inductive FlagStore where
  | thdExist
  | mustStop
  | done
  deriving Repr, DecidableEq

/-- `thd_exist = true`, `must_stop = false`, completion flag `= false`. -/
def FlagStore.apply (flags : WorkerFlags) : FlagStore → WorkerFlags
  | .thdExist => { flags with thdExist := true }
  | .mustStop => { flags with mustStop := false }
  | .done => { flags with done := false }

/-- No start takes `thd_exist` down. -/
theorem FlagStore.thdExist_apply
    {flags : WorkerFlags}
    (store : FlagStore)
    (existing : flags.thdExist = true) :
    (store.apply flags).thdExist = true := by
  cases store with
  | thdExist => rfl
  | mustStop => exact existing
  | done => exact existing

/-- No start asks a thread to stop. -/
theorem FlagStore.mustStop_apply
    {flags : WorkerFlags}
    (store : FlagStore)
    (calm : flags.mustStop = false) :
    (store.apply flags).mustStop = false := by
  cases store with
  | thdExist => exact calm
  | mustStop => rfl
  | done => exact calm

/-- The way out of a worker: asked to stop, or with its task completed. -/
inductive Exit where
  | stopped
  | completed
  deriving Repr, DecidableEq

/-- Where a worker is in its life cycle. -/
inductive Stage where
  /-- In its loop, in front of the next test of `must_stop`. -/
  | running
  /-- On a way out, with `thd_exist` still set. -/
  | leaving (exit : Exit)
  /-- `thd_exist` is cleared and `chThdExit` is still to be called. -/
  | cleared (exit : Exit)
  | exited (exit : Exit)
  deriving Repr, DecidableEq

namespace Stage

/-- The worker is the one that `thd_exist` stands for. -/
def registered : Stage → Bool
  | .running | .leaving _ => true
  | .cleared _ | .exited _ => false

/-- The thread is gone. -/
def hasExited : Stage → Bool
  | .exited _ => true
  | _ => false

/-- The worker is on its way out, or gone, through its `must_stop` branch. -/
def stopping : Stage → Bool
  | .leaving .stopped | .cleared .stopped | .exited .stopped => true
  | _ => false

/--
A thread that has given up its registration has one statement left at most.
-/
theorem exited_or_cleared
    {stage : Stage}
    (gone : stage.registered = false) :
    stage.hasExited = true ∨ ∃ exit, stage = .cleared exit := by
  cases stage with
  | cleared exit => exact .inr ⟨exit, rfl⟩
  | exited exit => exact .inl rfl
  | running => cases gone
  | leaving exit => cases gone

/-- What one step of a worker may do to its stage and to the flags. -/
def Moves :
    Stage → WorkerFlags → Stage → WorkerFlags → Prop
  | .running, flags, .running, next =>
      next.thdExist = flags.thdExist ∧ next.mustStop = flags.mustStop
  | .running, flags, .leaving .stopped, next =>
      flags.mustStop = true ∧ next = flags
  | .running, flags, .leaving .completed, next =>
      next = flags
  | .leaving before, flags, .leaving after, next =>
      after = before ∧ next.thdExist = flags.thdExist ∧
        (next.mustStop = flags.mustStop ∨ next.mustStop = false)
  | .leaving before, flags, .cleared after, next =>
      after = before ∧ next = { flags with thdExist := false }
  | .cleared before, flags, .exited after, next =>
      after = before ∧ next = flags
  | _, _, _, _ =>
      False

/-- A registered worker leaves the register only by clearing `thd_exist`. -/
theorem Moves.registered
    {before after : Stage}
    {flags next : WorkerFlags}
    (moves : Moves before flags after next)
    (isRegistered : before.registered = true) :
    (after.registered = true ∧ next.thdExist = flags.thdExist) ∨
      (after.registered = false ∧ next.thdExist = false) := by
  cases before with
  | running =>
      cases after with
      | running =>
          exact .inl ⟨rfl, moves.1⟩
      | leaving exit =>
          cases exit with
          | stopped => exact .inl ⟨rfl, by rw [moves.2]⟩
          | completed => exact .inl ⟨rfl, congrArg _ moves⟩
      | _ => exact moves.elim
  | leaving exit =>
      cases after with
      | leaving other => exact .inl ⟨rfl, moves.2.1⟩
      | cleared other => exact .inr ⟨rfl, by rw [moves.2]⟩
      | _ => exact moves.elim
  | _ => cases isRegistered

/-- Once `thd_exist` is cleared a worker touches no flag any more. -/
theorem Moves.unregistered
    {before after : Stage}
    {flags next : WorkerFlags}
    (moves : Moves before flags after next)
    (gone : before.registered = false) :
    after.registered = false ∧ next = flags := by
  cases before with
  | cleared exit =>
      cases after with
      | exited other => exact ⟨rfl, moves.2⟩
      | _ => exact moves.elim
  | exited exit => cases after <;> exact moves.elim
  | _ => cases gone

/-- No worker asks itself to stop. -/
theorem Moves.mustStop
    {before after : Stage}
    {flags next : WorkerFlags}
    (moves : Moves before flags after next)
    (calm : flags.mustStop = false) :
    next.mustStop = false := by
  cases before with
  | running =>
      cases after with
      | running => exact moves.2.trans calm
      | leaving exit =>
          cases exit with
          | stopped => rw [moves.2]; exact calm
          | completed => exact (congrArg _ moves).trans calm
      | _ => exact moves.elim
  | leaving exit =>
      cases after with
      | leaving other =>
          rcases moves.2.2 with same | cleared
          · exact same.trans calm
          · exact cleared
      | cleared other => rw [moves.2]; exact calm
      | _ => exact moves.elim
  | cleared exit =>
      cases after with
      | exited other => rw [moves.2]; exact calm
      | _ => exact moves.elim
  | exited exit => cases after <;> exact moves.elim

/-- A worker that is not asked to stop does not begin to. -/
theorem Moves.stopping
    {before after : Stage}
    {flags next : WorkerFlags}
    (moves : Moves before flags after next)
    (calm : flags.mustStop = false)
    (keepsOn : before.stopping = false) :
    after.stopping = false := by
  cases before with
  | running =>
      cases after with
      | running => rfl
      | leaving exit =>
          cases exit with
          | stopped => exact absurd (moves.1.symm.trans calm) (by decide)
          | completed => rfl
      | _ => exact moves.elim
  | leaving exit =>
      cases after with
      | leaving other => obtain rfl := moves.1; exact keepsOn
      | cleared other => obtain rfl := moves.1; cases other <;> exact keepsOn
      | _ => exact moves.elim
  | cleared exit =>
      cases after with
      | exited other => obtain rfl := moves.1; cases other <;> exact keepsOn
      | _ => exact moves.elim
  | exited exit => cases after <;> exact moves.elim

end Stage

/-- A worker thread, with the proof that it follows the life cycle. -/
structure WorkerProgram where
  Local : Type
  /-- Function statics that outlive the thread. -/
  Statics : Type
  Input : Type
  entry : Local
  step : Input → Local → Statics → WorkerFlags →
    Local × Statics × WorkerFlags
  stage : Local → Stage
  /-- The flag stores of the start function, in its order. -/
  startStores : List FlagStore
  entryRunning : stage entry = .running
  moves :
    ∀ input thread statics flags,
      (stage thread).hasExited = false →
      (stage thread).Moves flags
        (stage (step input thread statics flags).1)
        (step input thread statics flags).2.2
  storesExist : .thdExist ∈ startStores
  storesStop : .mustStop ∈ startStores

namespace WorkerProgram

/-- Flags, statics, the caller's position in a start, all workers so far. -/
structure State (program : WorkerProgram) where
  flags : WorkerFlags
  statics : program.Statics
  /-- The stores left to a start call; then the thread is created. -/
  call : Option (List FlagStore)
  workers : List program.Local

/-- One atomic step of the caller or of a worker. -/
inductive Action (program : WorkerProgram) where
  /-- The caller enters the start function and tests `thd_exist`. -/
  | start
  /-- The caller takes the next store of the start function, or creates. -/
  | caller
  | stop
  /-- A worker that has not exited takes a step. -/
  | worker (index : Nat) (input : program.Input)

variable {program : WorkerProgram}

/-- No worker has been created. -/
def boot (statics : program.Statics) : State program where
  flags := .initial
  statics := statics
  call := none
  workers := []

/-- A statement of a worker, with the statics and the flags of its file. -/
def workerStep
    (state : State program)
    (index : Nat)
    (thread : program.Local)
    (input : program.Input) : State program :=
  let result := program.step input thread state.statics state.flags
  { state with
    flags := result.2.2
    statics := result.2.1
    workers := state.workers.set index result.1 }

/-- One step of the caller and its workers. -/
def step? : Step (State program) (Action program)
  | state, .start =>
      match state.call with
      | some _ => none
      | none =>
          if state.flags.thdExist then
            some state
          else
            some { state with call := some program.startStores }
  | state, .caller =>
      match state.call with
      | none => none
      | some (store :: rest) =>
          some { state with
            flags := store.apply state.flags
            call := some rest }
      | some [] =>
          some { state with
            call := none
            workers := state.workers ++ [program.entry] }
  | state, .stop =>
      match state.call with
      | some _ => none
      | none =>
          some { state with flags := { state.flags with mustStop := true } }
  | state, .worker index input =>
      match state.workers[index]? with
      | none => none
      | some thread =>
          if (program.stage thread).hasExited then
            none
          else
            some (workerStep state index thread input)

/-- Every enabled step, by what it does to the state. -/
theorem step?_cases
    {state next : State program}
    {action : Action program}
    (taken : step? state action = some next) :
    (action = .start ∧ state.call = none ∧
        state.flags.thdExist = true ∧ next = state) ∨
      (action = .start ∧ state.call = none ∧
        state.flags.thdExist = false ∧
        next = { state with call := some program.startStores }) ∨
      (∃ store rest,
        action = .caller ∧ state.call = some (store :: rest) ∧
          next = { state with
            flags := store.apply state.flags
            call := some rest }) ∨
      (action = .caller ∧ state.call = some [] ∧
        next = { state with
          call := none
          workers := state.workers ++ [program.entry] }) ∨
      (action = .stop ∧ state.call = none ∧
        next =
          { state with flags := { state.flags with mustStop := true } }) ∨
      (∃ index input thread,
        action = .worker index input ∧
          state.workers[index]? = some thread ∧
          (program.stage thread).hasExited = false ∧
          next = workerStep state index thread input) := by
  cases action with
  | start =>
      cases idle : state.call with
      | some rest =>
          simp [step?, idle] at taken
      | none =>
          cases existing : state.flags.thdExist with
          | true =>
              simp only [step?, idle, existing, ↓reduceIte,
                Option.some.injEq] at taken
              exact .inl ⟨rfl, rfl, rfl, taken.symm⟩
          | false =>
              simp only [step?, idle, existing, Bool.false_eq_true,
                ↓reduceIte, Option.some.injEq] at taken
              exact .inr (.inl ⟨rfl, rfl, rfl, taken.symm⟩)
  | caller =>
      cases current : state.call with
      | none =>
          simp [step?, current] at taken
      | some stores =>
          cases stores with
          | nil =>
              simp only [step?, current, Option.some.injEq] at taken
              exact .inr (.inr (.inr (.inl ⟨rfl, rfl, taken.symm⟩)))
          | cons store rest =>
              simp only [step?, current, Option.some.injEq] at taken
              exact .inr (.inr (.inl
                ⟨store, rest, rfl, rfl, taken.symm⟩))
  | stop =>
      cases idle : state.call with
      | some rest =>
          simp [step?, idle] at taken
      | none =>
          simp only [step?, idle, Option.some.injEq] at taken
          exact .inr (.inr (.inr (.inr (.inl
            ⟨rfl, rfl, taken.symm⟩))))
  | worker index input =>
      cases current : state.workers[index]? with
      | none =>
          simp [step?, current] at taken
      | some thread =>
          cases gone : (program.stage thread).hasExited with
          | true =>
              simp [step?, current, gone] at taken
          | false =>
              simp only [step?, current, gone, Bool.false_eq_true,
                ↓reduceIte, Option.some.injEq] at taken
              exact .inr (.inr (.inr (.inr (.inr
                ⟨index, input, thread, rfl, current, gone, taken.symm⟩))))

end WorkerProgram

end EPuckTavern
