import EPuckTavern.Transition.Run
import EPuckTavern.Walk
import EPuckTavern.AvoidObstacles

namespace EPuckTavern.Stroll

open Transition

/-!
# The tavern stroll: main, `thd_walk` and `avoid_obstacles`

The two permanent threads run beside a main thread that may call the start,
pause and resume functions of either module, one call at a time and in any
order.  Each flag access, motor command, sleep and message wait is one step,
and the action list of a run is the interleaving.
-/

/-- The two threads of the stroll. -/
inductive ThreadId where
  | walk
  | avoidObstacles
  deriving Repr, DecidableEq

/-- Flags of both modules, both threads, and the call main is inside of. -/
structure State where
  flags : ThreadId → PauseFlags
  walk : Option Walk.Pc
  avoidObstacles : Option AvoidObstacles.Local
  call : Option (ThreadId × CallPoint)

/-- No thread has been created. -/
def boot : State where
  flags := fun _ => .initial
  walk := none
  avoidObstacles := none
  call := none

/-- One atomic step of the system. -/
inductive Action where
  /-- Main enters one of the functions of a module. -/
  | call (thread : ThreadId) (function : PauseFunction)
  /-- Main executes the next statement of its call. -/
  | main
  | walk
  | avoidObstacles (input : AvoidObstacles.Input)

/-- A motor command together with the thread that issued it. -/
structure Event where
  thread : ThreadId
  command : MotorCommand
  deriving Repr, DecidableEq

namespace State

/-- The thread has been created. -/
def present (state : State) : ThreadId → Bool
  | .walk => state.walk.isSome
  | .avoidObstacles => state.avoidObstacles.isSome

/-- Where main stands in a call for the thread. -/
def callOf (state : State) (thread : ThreadId) : Option CallPoint :=
  state.call.bind fun (callee, point) =>
    if callee = thread then some point else none

/-- Effect of `chThdCreateStatic` in the start function of a module. -/
def create (state : State) : ThreadId → State
  | .walk => { state with walk := some .readTime }
  | .avoidObstacles =>
      { state with avoidObstacles := some AvoidObstacles.entry }

/-- Effect of one statement of main's current call. -/
def callStep (state : State) (thread : ThreadId) (point : CallPoint) :
    State :=
  let flags := state.flags thread
  let after : State :=
    { state with
      flags := Function.update state.flags thread (point.store flags)
      call := (point.next? flags).map (thread, ·) }
  if point = .startCreate then after.create thread else after

end State

/-- A statement of main, `thd_walk` or `avoid_obstacles`. -/
def step? : Step State Action
  | state, .call thread function =>
      match state.call with
      | none => some { state with call := some (thread, function.entry) }
      | some _ => none
  | state, .main =>
      match state.call with
      | none => none
      | some (thread, point) => some (state.callStep thread point)
  | state, .walk =>
      match state.walk with
      | none => none
      | some pc =>
          some { state with
            walk := some (Walk.step (state.flags .walk).isPaused pc) }
  | state, .avoidObstacles input =>
      match state.avoidObstacles with
      | none => none
      | some thread =>
          some { state with
            avoidObstacles :=
              some (AvoidObstacles.step
                (state.flags .avoidObstacles).isPaused thread input) }

/-- The motor command of a step, tagged with its thread. -/
def emit (state : State) : Action → List Event
  | .call _ _ | .main =>
      []
  | .walk =>
      (state.walk.bind Walk.command?).toList.map (Event.mk .walk)
  | .avoidObstacles _ =>
      (state.avoidObstacles.bind
        (AvoidObstacles.command? ∘ AvoidObstacles.Local.pc)).toList.map
          (Event.mk .avoidObstacles)

/-- The motor commands of a run in the order in which they are issued. -/
abbrev commands (state : State) (actions : List Action) : List Event :=
  trace step? emit state actions

section Enabled

variable {state : State}

theorem step?_call
    (idle : state.call = none)
    (thread : ThreadId)
    (function : PauseFunction) :
    step? state (.call thread function) =
      some { state with call := some (thread, function.entry) } := by
  simp only [step?, idle]

theorem step?_walk
    {pc : Walk.Pc}
    (current : state.walk = some pc) :
    step? state .walk =
      some { state with
        walk := some (Walk.step (state.flags .walk).isPaused pc) } := by
  simp only [step?, current]

theorem step?_avoidObstacles
    {thread : AvoidObstacles.Local}
    (current : state.avoidObstacles = some thread)
    (input : AvoidObstacles.Input) :
    step? state (.avoidObstacles input) =
      some { state with
        avoidObstacles :=
          some (AvoidObstacles.step
            (state.flags .avoidObstacles).isPaused thread input) } := by
  simp only [step?, current]

end Enabled

/-- Every enabled step, by what it does to the state. -/
theorem step?_cases
    {state next : State}
    {action : Action}
    (taken : step? state action = some next) :
    (∃ thread function,
        action = .call thread function ∧
          state.call = none ∧
          next = { state with call := some (thread, function.entry) }) ∨
      (∃ thread point,
        action = .main ∧
          state.call = some (thread, point) ∧
          next = state.callStep thread point) ∨
      (∃ pc,
        action = .walk ∧
          state.walk = some pc ∧
          next = { state with
            walk := some (Walk.step (state.flags .walk).isPaused pc) }) ∨
      (∃ input thread,
        action = .avoidObstacles input ∧
          state.avoidObstacles = some thread ∧
          next = { state with
            avoidObstacles :=
              some (AvoidObstacles.step
                (state.flags .avoidObstacles).isPaused thread input) }) := by
  cases action with
  | call thread function =>
      cases idle : state.call with
      | none =>
          simp only [step?, idle, Option.some.injEq] at taken
          exact .inl ⟨thread, function, rfl, rfl, taken.symm⟩
      | some current =>
          simp [step?, idle] at taken
  | main =>
      cases current : state.call with
      | none =>
          simp [step?, current] at taken
      | some entry =>
          obtain ⟨thread, point⟩ := entry
          simp only [step?, current, Option.some.injEq] at taken
          exact .inr (.inl ⟨thread, point, rfl, rfl, taken.symm⟩)
  | walk =>
      cases current : state.walk with
      | none =>
          simp [step?, current] at taken
      | some pc =>
          simp only [step?, current, Option.some.injEq] at taken
          exact .inr (.inr (.inl ⟨pc, rfl, rfl, taken.symm⟩))
  | avoidObstacles input =>
      cases current : state.avoidObstacles with
      | none =>
          simp [step?, current] at taken
      | some thread =>
          simp only [step?, current, Option.some.injEq] at taken
          exact .inr (.inr (.inr ⟨input, thread, rfl, rfl, taken.symm⟩))

@[simp] theorem State.present_call
    (state : State)
    (call : Option (ThreadId × CallPoint))
    (thread : ThreadId) :
    ({ state with call := call }).present thread =
      state.present thread := by
  cases thread <;> rfl

section CallStep

variable (state : State) (thread : ThreadId) (point : CallPoint)

@[simp] theorem State.callStep_flags :
    (state.callStep thread point).flags =
      Function.update state.flags thread
        (point.store (state.flags thread)) := by
  unfold State.callStep
  split
  · cases thread <;> rfl
  · rfl

@[simp] theorem State.callStep_call :
    (state.callStep thread point).call =
      (point.next? (state.flags thread)).map (thread, ·) := by
  unfold State.callStep
  split
  · cases thread <;> rfl
  · rfl

theorem State.present_callStep
    (query : ThreadId) :
    (state.callStep thread point).present query =
      if query = thread then
        point.creates (state.present query)
      else
        state.present query := by
  cases thread <;> cases query <;> cases point <;>
    simp [State.callStep, State.create, State.present, CallPoint.creates]

end CallStep

/-- Flags, threads and main's call fit together for both modules. -/
def WellFormed (state : State) : Prop :=
  ∀ thread,
    CallPoint.consistent (state.flags thread) (state.present thread)
      (state.callOf thread) = true

theorem wellFormed_boot : WellFormed boot := by
  intro thread
  cases thread <;> rfl

/-- Step lemma: every step of the system keeps it well formed. -/
theorem wellFormed_step
    {state next : State}
    {action : Action}
    (wellFormed : WellFormed state)
    (taken : step? state action = some next) :
    WellFormed next := by
  intro query
  have holds := wellFormed query
  rcases step?_cases taken with
    ⟨thread, function, rfl, idle, rfl⟩ |
    ⟨thread, point, rfl, current, rfl⟩ |
    ⟨pc, rfl, current, rfl⟩ |
    ⟨input, thread, rfl, current, rfl⟩
  · by_cases callee : thread = query
    · subst callee
      simp only [State.callOf, idle, Option.bind_none] at holds
      simpa [State.callOf] using
        CallPoint.consistent_entry holds function
    · simpa [State.callOf, idle, callee, State.present] using holds
  · by_cases callee : thread = query
    · subst callee
      simp only [State.callOf, current, Option.bind_some,
        ↓reduceIte] at holds
      have stepped := CallPoint.consistent_next holds
      simpa [State.callOf, State.present_callStep,
        Option.bind_map, Function.comp_def] using stepped
    · have other : query ≠ thread := Ne.symm callee
      have idle : state.callOf query = none := by
        simp [State.callOf, current, callee]
      have stillIdle :
          (state.callStep thread point).callOf query = none := by
        simp [State.callOf, Option.bind_map, callee]
      rw [idle] at holds
      rw [stillIdle, State.callStep_flags, State.present_callStep,
        if_neg other, Function.update_of_ne other]
      exact holds
  · cases query <;> simpa [State.callOf, State.present, current] using holds
  · cases query <;> simpa [State.callOf, State.present, current] using holds

theorem wellFormed_of_reachable
    {state : State}
    (reachable : Reachable step? boot state) :
    WellFormed state :=
  reachable.invariant wellFormed_step wellFormed_boot

end EPuckTavern.Stroll
