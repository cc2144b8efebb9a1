import EPuckTavern.Stroll

namespace EPuckTavern.Stroll

open Transition

/-!
# What pausing a stroll thread guarantees

`tavern_phase` and `tracking_phase` pause both threads and at once start a
worker on the same motors.  A pause call only sets a flag that the thread
tests at the head of its loop, so the motors are handed over exactly when the
call returns while the thread is outside its pass.
-/

/-- The step with which a call of the thread's pause function returns. -/
def PauseReturns
    (thread : ThreadId)
    (before : State)
    (action : Action)
    (after : State) : Prop :=
  step? before action = some after ∧
    action = .main ∧
    (∃ point,
      before.call = some (thread, point) ∧
        point.function = .pauseThd) ∧
    after.call = none

/-- Until its resume function is called, the thread leaves the motors alone. -/
def HandsOver (thread : ThreadId) (state : State) : Prop :=
  ∀ actions,
    .call thread .resumeThd ∉ actions →
    ∀ event ∈ commands state actions, event.thread ≠ thread

/-- The thread exists and has no motor command left before its next test. -/
def Quiescent (state : State) : ThreadId → Prop
  | .walk =>
      ∃ pc, state.walk = some pc ∧ Walk.Quiet pc
  | .avoidObstacles =>
      ∃ thread,
        state.avoidObstacles = some thread ∧
          AvoidObstacles.Quiet thread

section Silent

/-- A thread that is paused, outside its pass, and not being resumed. -/
structure HandedOver (thread : ThreadId) (state : State) : Prop where
  flags : state.flags thread = ⟨true, true⟩
  quiescent : Quiescent state thread
  notResuming :
    ∀ point,
      state.callOf thread = some point →
      point = .startTestCreated ∨ point = .pauseTestPaused

/-- A thread that has not moved is as quiescent as before. -/
theorem Quiescent.transfer
    {thread : ThreadId}
    {state next : State}
    (quiescent : Quiescent state thread)
    (sameWalk : next.walk = state.walk)
    (sameAvoid : next.avoidObstacles = state.avoidObstacles) :
    Quiescent next thread := by
  cases thread with
  | walk =>
      obtain ⟨pc, current, quiet⟩ := quiescent
      exact ⟨pc, sameWalk.trans current, quiet⟩
  | avoidObstacles =>
      obtain ⟨running, current, quiet⟩ := quiescent
      exact ⟨running, sameAvoid.trans current, quiet⟩

/-- No statement but the creation of a thread moves one. -/
theorem callStep_threads
    (state : State)
    (thread : ThreadId)
    (point : CallPoint)
    (noCreation : point ≠ .startCreate) :
    (state.callStep thread point).walk = state.walk ∧
      (state.callStep thread point).avoidObstacles =
        state.avoidObstacles := by
  simp [State.callStep, noCreation]

/-- A call for one thread leaves the other where it stands. -/
theorem quiescent_callStep_other
    {state : State}
    {thread callee : ThreadId}
    (quiescent : Quiescent state thread)
    (other : callee ≠ thread)
    (point : CallPoint) :
    Quiescent (state.callStep callee point) thread := by
  by_cases creation : point = .startCreate
  · subst creation
    cases thread <;> cases callee <;>
      first
        | exact (other rfl).elim
        | exact quiescent
  · obtain ⟨sameWalk, sameAvoid⟩ :=
      callStep_threads state callee point creation
    exact quiescent.transfer sameWalk sameAvoid

/-- Step lemma: without a resume call, a handed-over thread stays so. -/
theorem handedOver_step
    {thread : ThreadId}
    {state next : State}
    {action : Action}
    (handedOver : HandedOver thread state)
    (noResume : action ≠ .call thread .resumeThd)
    (taken : step? state action = some next) :
    HandedOver thread next := by
  obtain ⟨flags, quiescent, notResuming⟩ := handedOver
  rcases step?_cases taken with
    ⟨callee, function, rfl, idle, rfl⟩ |
    ⟨callee, point, rfl, current, rfl⟩ |
    ⟨pc, rfl, current, rfl⟩ |
    ⟨input, running, rfl, current, rfl⟩
  · refine ⟨flags, quiescent.transfer rfl rfl, ?_⟩
    intro point entered
    by_cases callsThread : callee = thread
    · subst callsThread
      simp only [State.callOf, Option.bind_some, ↓reduceIte,
        Option.some.injEq] at entered
      subst entered
      cases function with
      | startThd => exact .inl rfl
      | pauseThd => exact .inr rfl
      | resumeThd => exact (noResume rfl).elim
    · simp [State.callOf, callsThread] at entered
  · by_cases callsThread : callee = thread
    · subst callsThread
      have atPoint : state.callOf callee = some point := by
        simp [State.callOf, current]
      -- Both remaining statements find the flags set and return.
      rcases notResuming point atPoint with rfl | rfl
      · obtain ⟨sameWalk, sameAvoid⟩ :=
          callStep_threads state callee .startTestCreated (by decide)
        refine ⟨?_, quiescent.transfer sameWalk sameAvoid, ?_⟩
        · simp [CallPoint.store, flags]
        · simp [State.callOf, CallPoint.next?, flags]
      · obtain ⟨sameWalk, sameAvoid⟩ :=
          callStep_threads state callee .pauseTestPaused (by decide)
        refine ⟨?_, quiescent.transfer sameWalk sameAvoid, ?_⟩
        · simp [CallPoint.store, flags]
        · simp [State.callOf, CallPoint.next?, flags]
    · refine ⟨?_, quiescent_callStep_other quiescent callsThread point, ?_⟩
      · rw [State.callStep_flags,
          Function.update_of_ne (Ne.symm callsThread)]
        exact flags
      · intro later entered
        simp [State.callOf, Option.bind_map, callsThread] at entered
  · refine ⟨flags, ?_, notResuming⟩
    cases thread with
    | walk =>
        obtain ⟨quietPc, same, quiet⟩ := quiescent
        obtain rfl : pc = quietPc :=
          Option.some.inj (current.symm.trans same)
        refine ⟨_, rfl, ?_⟩
        rw [flags]
        exact Walk.quiet_step quiet
    | avoidObstacles =>
        exact quiescent
  · refine ⟨flags, ?_, notResuming⟩
    cases thread with
    | walk =>
        exact quiescent
    | avoidObstacles =>
        obtain ⟨quietThread, same, quiet⟩ := quiescent
        obtain rfl : running = quietThread :=
          Option.some.inj (current.symm.trans same)
        refine ⟨_, rfl, ?_⟩
        rw [flags]
        exact AvoidObstacles.quiet_step quiet input

/-- A thread that has handed over issues no command. -/
theorem handedOver_silent
    {thread : ThreadId}
    {state : State}
    (handedOver : HandedOver thread state)
    (action : Action) :
    ∀ event ∈ emit state action, event.thread ≠ thread := by
  have quiescent := handedOver.quiescent
  intro event member
  cases action with
  | call callee function =>
      simp [emit] at member
  | main =>
      simp [emit] at member
  | walk =>
      cases thread with
      | walk =>
          obtain ⟨pc, current, quiet⟩ := quiescent
          simp [emit, current, Walk.command?_of_quiet quiet] at member
      | avoidObstacles =>
          simp only [emit, List.mem_map] at member
          obtain ⟨command, _, rfl⟩ := member
          exact ThreadId.noConfusion
  | avoidObstacles input =>
      cases thread with
      | walk =>
          simp only [emit, List.mem_map] at member
          obtain ⟨command, _, rfl⟩ := member
          exact ThreadId.noConfusion
      | avoidObstacles =>
          obtain ⟨running, current, quiet⟩ := quiescent
          simp [emit, current,
            AvoidObstacles.command?_of_quiet quiet] at member

/-- Run lemma: a handed-over thread is silent until it is resumed. -/
theorem HandedOver.handsOver
    {thread : ThreadId}
    {state : State}
    (handedOver : HandedOver thread state) :
    HandsOver thread state := by
  intro actions noResume event member
  have along :
      Along step?
        (fun _ action => action ≠ .call thread .resumeThd)
        state actions :=
    along_of_forall_mem
      (by
        intro action inRun _ _ _ isResume
        subst isResume
        exact noResume inRun) state
  have silent :
      ∀ event ∈ commands state actions, ¬ event.thread = thread :=
    trace_silent
      (fun holds meets taken => handedOver_step holds meets taken)
      (fun holds _ => handedOver_silent holds _)
      handedOver along
  exact silent event member

end Silent

section Speaking

/-- Some run without a resume call has the thread issue a motor command. -/
def Speaks (thread : ThreadId) (state : State) : Prop :=
  ∃ actions,
    .call thread .resumeThd ∉ actions ∧
      ∃ event ∈ commands state actions, event.thread = thread

/-- A thread that still speaks has not handed over. -/
theorem not_handsOver_of_speaks
    {thread : ThreadId}
    {state : State}
    (speaks : Speaks thread state) :
    ¬ HandsOver thread state := by
  obtain ⟨actions, noResume, event, member, owner⟩ := speaks
  intro handsOver
  exact handsOver actions noResume event member owner

/-- What can be said after a step can be said from before it. -/
theorem Speaks.of_step
    {thread : ThreadId}
    {state next : State}
    {action : Action}
    (noResume : action ≠ .call thread .resumeThd)
    (taken : step? state action = some next)
    (speaks : Speaks thread next) :
    Speaks thread state := by
  obtain ⟨actions, restNoResume, event, member, owner⟩ := speaks
  refine ⟨action :: actions, ?_, event, ?_, owner⟩
  · simp [noResume.symm, restNoResume]
  · rw [commands, trace_cons_of_step taken]
    exact List.mem_append_right _ member

/-- What can be said after a run can be said from before it. -/
theorem Speaks.of_run
    {thread : ThreadId}
    {state middle : State}
    {leading : List Action}
    (noResume : .call thread .resumeThd ∉ leading)
    (ran : run? step? state leading = some middle)
    (speaks : Speaks thread middle) :
    Speaks thread state := by
  obtain ⟨actions, restNoResume, event, member, owner⟩ := speaks
  refine ⟨leading ++ actions, ?_, event, ?_, owner⟩
  · simp [noResume, restNoResume]
  · rw [commands, trace_append ran]
    exact List.mem_append_right _ member

/-- `thd_walk` speaks at a statement that issues a command. -/
theorem speaks_walk_now
    {state : State}
    {pc : Walk.Pc}
    (current : state.walk = some pc)
    (issues : (Walk.command? pc).isSome = true) :
    Speaks .walk state := by
  obtain ⟨command, issued⟩ := Option.isSome_iff_exists.mp issues
  refine ⟨[.walk], by simp, ⟨.walk, command⟩, ?_, rfl⟩
  simp [commands, trace, step?, current, emit, issued]

/-- Within a lap, `thd_walk` comes to a command even when it is paused. -/
theorem speaks_walk
    {state : State}
    {pc : Walk.Pc}
    (current : state.walk = some pc)
    (moving : ¬ Walk.Quiet pc) :
    Speaks .walk state := by
  rcases Walk.command_soon moving (state.flags .walk).isPaused with
    now | soon
  · exact speaks_walk_now current now
  · exact .of_step (by simp) (step?_walk current)
      (speaks_walk_now rfl soon)

/-- What the avoidance thread does alone, it can do in the system. -/
theorem speaks_avoidObstacles
    {state : State}
    {running : AvoidObstacles.Local}
    (current : state.avoidObstacles = some running)
    (ahead :
      AvoidObstacles.CommandAhead
        (state.flags .avoidObstacles).isPaused running) :
    Speaks .avoidObstacles state := by
  obtain ⟨inputs, issues⟩ := ahead
  induction inputs generalizing state running with
  | nil =>
      obtain ⟨command, issued⟩ := Option.isSome_iff_exists.mp issues
      refine ⟨[.avoidObstacles AvoidObstacles.hit], by simp,
        ⟨.avoidObstacles, command⟩, ?_, rfl⟩
      simp only [List.foldl_nil] at issued
      simp [commands, trace, step?, current, emit, issued]
  | cons input rest inductionHypothesis =>
      exact .of_step (by simp) (step?_avoidObstacles current input)
        (inductionHypothesis rfl issues)

/-- The thread has just been created by its start function. -/
def started (thread : ThreadId) (state : State) : State :=
  { state with
    flags := Function.update state.flags thread ⟨true, false⟩
    call := none }.create thread

/-- The start function takes four statements. -/
theorem run?_started
    {thread : ThreadId}
    {state : State}
    (idle : state.call = none)
    (flags : state.flags thread = ⟨false, false⟩) :
    run? step? state
        [.call thread .startThd, .main, .main, .main, .main] =
      some (started thread state) := by
  rw [run?_cons_of_step (step?_call idle thread .startThd)]
  cases thread <;>
    simp [run?, step?, State.callStep, State.create, started,
      PauseFunction.entry, CallPoint.next?, CallPoint.store, flags]

/-- A thread that has not been created can still be started and then moves. -/
theorem speaks_of_not_created
    {thread : ThreadId}
    {state : State}
    (idle : state.call = none)
    (flags : state.flags thread = ⟨false, false⟩) :
    Speaks thread state := by
  refine .of_run (by simp) (run?_started idle flags) ?_
  cases thread with
  | walk =>
      refine .of_step (by simp) (step?_walk rfl) ?_
      refine .of_step (by simp) (step?_walk rfl) ?_
      exact speaks_walk_now rfl Walk.command_after_test
  | avoidObstacles =>
      exact speaks_avoidObstacles rfl AvoidObstacles.commandAhead_entry

end Speaking

/-- A pause that returns leaves a thread paused, or finds none. -/
theorem flags_of_pauseReturns
    {thread : ThreadId}
    {before after : State}
    {action : Action}
    (wellFormed : WellFormed before)
    (returns : PauseReturns thread before action after) :
    (after.flags thread = ⟨true, true⟩ ∧ after.present thread = true) ∨
      (after.flags thread = ⟨false, false⟩ ∧
        after.present thread = false) := by
  obtain ⟨taken, rfl, ⟨point, current, pausing⟩, idle⟩ := returns
  simp only [step?, current, Option.some.injEq] at taken
  subst after
  have consistent := wellFormed thread
  simp only [State.callOf, current, Option.bind_some,
    ↓reduceIte] at consistent
  have returned : point.next? (before.flags thread) = none := by
    simpa using idle
  obtain ⟨presence, paused⟩ :=
    CallPoint.flags_of_pause_return consistent pausing returned
  rw [State.callStep_flags, Function.update_self,
    State.present_callStep, if_pos rfl, presence]
  generalize point.store (before.flags thread) = stored at paused ⊢
  obtain ⟨created, isPaused⟩ := stored
  obtain rfl : isPaused = created := paused
  cases isPaused with
  | true => exact .inl ⟨rfl, rfl⟩
  | false => exact .inr ⟨rfl, rfl⟩

/--
A returned pause call has handed the motors over, for every continuation of
the run, exactly when it has found the thread outside its pass.
-/
theorem handsOver_iff_quiescent
    {thread : ThreadId}
    {before after : State}
    {action : Action}
    (reachable : Reachable step? boot before)
    (returns : PauseReturns thread before action after) :
    HandsOver thread after ↔ Quiescent after thread := by
  have flagCases :=
    flags_of_pauseReturns (wellFormed_of_reachable reachable) returns
  have idle : after.call = none := returns.2.2.2
  constructor
  · intro handsOver
    rcases flagCases with ⟨_, present⟩ | ⟨flags, _⟩
    · cases thread with
      | walk =>
          obtain ⟨pc, current⟩ := Option.isSome_iff_exists.mp present
          refine ⟨pc, current, ?_⟩
          by_contra moving
          exact not_handsOver_of_speaks
            (speaks_walk current moving) handsOver
      | avoidObstacles =>
          obtain ⟨running, current⟩ :=
            Option.isSome_iff_exists.mp present
          refine ⟨running, current, ?_⟩
          by_contra moving
          exact not_handsOver_of_speaks
            (speaks_avoidObstacles current
              (AvoidObstacles.commandAhead_of_not_quiet moving))
            handsOver
    · exact (not_handsOver_of_speaks
        (speaks_of_not_created idle flags) handsOver).elim
  · intro quiescent
    rcases flagCases with ⟨flags, _⟩ | ⟨_, absent⟩
    · have handedOver : HandedOver thread after :=
        ⟨flags, quiescent, by simp [State.callOf, idle]⟩
      exact handedOver.handsOver
    · cases thread <;>
        obtain ⟨running, current, _⟩ := quiescent <;>
        simp [State.present, current] at absent

/-- `thd_walk` some statements after its start. -/
def walkRunning (steps : Nat) : State :=
  { started .walk boot with
    walk := some ((Walk.step false)^[steps] .readTime) }

/-- Main is about to store `is_paused = true` in the call that pauses it. -/
def pausingWalk (steps : Nat) : State :=
  (State.callStep
    { walkRunning steps with call := some (.walk, .pauseTestPaused) }
    .walk .pauseTestPaused).callStep .walk .pauseTestCreated

/-- The pause has just been stored. -/
def pausedWalk (steps : Nat) : State :=
  (pausingWalk steps).callStep .walk .pauseStore

/-- Main can be about to pause `thd_walk` anywhere in its lap. -/
theorem reachable_pausingWalk
    (steps : Nat) :
    Reachable step? boot (pausingWalk steps) := by
  have running : Reachable step? boot (walkRunning steps) := by
    induction steps with
    | zero =>
        have ran :
            run? step? boot
                [.call .walk .startThd, .main, .main, .main, .main] =
              some (started .walk boot) :=
          run?_started rfl rfl
        exact ⟨_, ran⟩
    | succ earlier inductionHypothesis =>
        have taken :
            step? (walkRunning earlier) .walk =
              some (walkRunning (earlier + 1)) := by
          rw [step?_walk rfl, walkRunning, walkRunning,
            Function.iterate_succ_apply']
          rfl
        exact inductionHypothesis.step taken
  obtain ⟨actions, ran⟩ := running
  have paused :
      run? step? (walkRunning steps)
          [.call .walk .pauseThd, .main, .main] =
        some (pausingWalk steps) :=
    rfl
  exact ⟨_, run?_append ran paused⟩

/-- The store of the flag is the last statement of the pause. -/
theorem pauseReturns_pausedWalk
    (steps : Nat) :
    PauseReturns .walk (pausingWalk steps) .main (pausedWalk steps) :=
  ⟨rfl, rfl, ⟨.pauseStore, rfl, rfl⟩, rfl⟩

/--
`main` creates and pauses the stroll thread before the scheduler has run it:
the pause finds it at the head of its loop and hands the motors over.
-/
theorem handsOver_before_first_pass :
    HandsOver .walk (pausedWalk 0) :=
  (handsOver_iff_quiescent (reachable_pausingWalk 0)
    (pauseReturns_pausedWalk 0)).mpr ⟨.readTime, rfl, trivial⟩

/--
The stroll thread has set the left motor of its first turn when it is paused:
the call has returned, and the next step still sets the right motor to
`-SPEED_BUTTERFLY`.
-/
theorem pause_during_turn_keeps_driving :
    ¬ ∀ thread before action after,
      Reachable step? boot before →
      PauseReturns thread before action after →
      HandsOver thread after := by
  intro handsOver
  exact handsOver .walk (pausingWalk 3) .main (pausedWalk 3)
    (reachable_pausingWalk 3) (pauseReturns_pausedWalk 3)
    [.walk] (by simp)
    ⟨.walk, rightMotorSetSpeed (-Walk.speedButterfly)⟩
    List.mem_cons_self rfl

end EPuckTavern.Stroll
