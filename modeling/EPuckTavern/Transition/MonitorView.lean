import EPuckTavern.Transition.Monitor

namespace EPuckTavern.Transition.Monitor

/-!
# Two programs that lock alike

A program may be seen through another one, whose control points stand for its
own and whose statements take the lock, give it back, wait and wake where its
own do.  Then each step is a step of the other program as well, unless it
works on the shared data; what that comes to in the other program is left to
whoever compares the two.
-/

variable {Id Shared Seen Local Sight : Type}

/-- The second statement does with the lock what the first does. -/
def Statement.LocksAs
    (view : Local → Sight)
    (statement : Statement Shared Local)
    (other : Statement Seen Sight) : Prop :=
  match statement with
  | .acquire next => other = .acquire (view next)
  | .release next => other = .release (view next)
  | .condWait next => other = .condWait (view next)
  | .broadcast next => other = .broadcast (view next)
  | .own next => other = .own (view next)
  | .idle => other = .idle
  | .work _ => True

/-- The second program locks as the first does, at each control point. -/
structure LocksAs
    (view : Local → Sight)
    (program : Program Shared Local)
    (other : Program Seen Sight) : Prop where
  statement :
    ∀ pc, (program.statement pc).LocksAs view (other.statement (view pc))
  entry : ∀ pc, program.entry pc = true → other.entry (view pc) = true

/-- A thread, seen through the other program. -/
def Status.view (view : Local → Sight) : Status Local → Status Sight
  | .running pc => .running (view pc)
  | .asleep pc => .asleep (view pc)
  | .woken pc => .woken (view pc)

/-- To be woken looks the same from both sides. -/
theorem Status.view_wake
    (view : Local → Sight)
    (status : Status Local) :
    status.wake.view view = (status.view view).wake := by
  cases status <;> rfl

/-- A state, seen through the other program and its shared data. -/
def State.view
    (view : Local → Sight)
    (state : State Id Shared Local)
    (seen : Seen) : State Id Seen Sight where
  shared := seen
  owner := state.owner
  threads := Status.view view ∘ state.threads

/-- An action, seen through the other program. -/
def Action.view (view : Local → Sight) : Action Id Local → Action Id Sight
  | .call id pc => .call id (view pc)
  | .step id => .step id

/-- What a thread tells when it leaves the lock, as the other one says it. -/
def viewEvent (view : Local → Sight) (event : Id × Local) : Id × Sight :=
  (event.1, view event.2)

/-- A step works on the shared data. -/
def Works
    (program : Program Shared Local)
    (state : State Id Shared Local)
    (action : Action Id Local) : Prop :=
  ∃ id pc run,
    action = .step id ∧
      state.threads id = .running pc ∧ program.statement pc = .work run

/-- To wake the threads and to view them are independent. -/
theorem view_wakes
    (view : Local → Sight)
    (threads : Id → Status Local) :
    Status.view view ∘ Status.wake ∘ threads =
      Status.wake ∘ Status.view view ∘ threads :=
  funext fun id => Status.view_wake view (threads id)

variable [DecidableEq Id]

/-- A thread that moves is viewed where it moves to. -/
theorem view_update
    (view : Local → Sight)
    (threads : Id → Status Local)
    (id : Id)
    (status : Status Local) :
    Status.view view ∘ Function.update threads id status =
      Function.update (Status.view view ∘ threads) id (status.view view) :=
  Function.comp_update _ _ _ _

/-- A thread that goes on unseen leaves the view as it is. -/
theorem view_unseen
    {view : Local → Sight}
    {state : State Id Shared Local}
    {id : Id}
    {pc after : Local}
    (running : state.threads id = .running pc)
    (unseen : view after = view pc)
    (shared : Shared)
    (seen : Seen) :
    State.view view
        { state with
          shared := shared
          threads := Function.update state.threads id (.running after) }
        seen =
      state.view view seen := by
  have same :
      Status.view view (.running after) =
        (Status.view view ∘ state.threads) id := by
    simp [running, Status.view, unseen]
  simp only [State.view, view_update, same, Function.update_eq_self]

/-- A step of another kind leaves the shared data as it is. -/
theorem shared_of_leaves
    {program : Program Shared Local}
    {state next : State Id Shared Local}
    {action : Action Id Local}
    (taken : program.step? state action = some next)
    (leaves : ¬ Works program state action) :
    next.shared = state.shared := by
  cases move_of_step? taken with
  | work running here =>
      exact (leaves ⟨_, _, _, rfl, running, here⟩).elim
  | _ => rfl

section Viewing

variable
  {view : Local → Sight}
  {program : Program Shared Local}
  {other : Program Seen Sight}
  {state next : State Id Shared Local}
  {action : Action Id Local}

omit [DecidableEq Id] in
/-- A statement of the one program tells what the other one has there. -/
theorem LocksAs.of_statement
    {statement : Statement Shared Local}
    {pc : Local}
    (alike : LocksAs view program other)
    (here : program.statement pc = statement) :
    statement.LocksAs view (other.statement (view pc)) :=
  here ▸ alike.statement pc

/-- Step lemma: the other program takes each step that leaves the data. -/
theorem view_step?
    (alike : LocksAs view program other)
    (taken : program.step? state action = some next)
    (leaves : ¬ Works program state action)
    (seen : Seen) :
    other.step? (state.view view seen) (action.view view) =
      some (next.view view seen) := by
  cases move_of_step? taken with
  | @call id pc threads called =>
      obtain ⟨current, running, idle, entry, rfl⟩ := called?_eq_some called
      have there : other.statement (view current) = .idle :=
        alike.of_statement idle
      simp [Program.step?, Program.called?, State.view, Action.view, running,
        Status.view, there, alike.entry pc entry, view_update]
  | @acquire id pc after running here free =>
      have there : other.statement (view pc) = .acquire (view after) :=
        alike.of_statement here
      simp [Program.step?, State.view, Action.view, running, Status.view,
        there, free, view_update]
  | @resume id pc woken free =>
      simp [Program.step?, State.view, Action.view, woken, Status.view, free,
        view_update]
  | @release id pc after running here =>
      have there : other.statement (view pc) = .release (view after) :=
        alike.of_statement here
      simp [Program.step?, State.view, Action.view, running, Status.view,
        there, view_update]
  | @condWait id pc after running here =>
      have there : other.statement (view pc) = .condWait (view after) :=
        alike.of_statement here
      simp [Program.step?, State.view, Action.view, running, Status.view,
        there, view_update]
  | @broadcast id pc after running here =>
      have there : other.statement (view pc) = .broadcast (view after) :=
        alike.of_statement here
      simp [Program.step?, State.view, Action.view, running, Status.view,
        there, view_update, view_wakes]
  | @work id pc run running here =>
      exact (leaves ⟨id, pc, run, rfl, running, here⟩).elim
  | @own id pc after running here =>
      have there : other.statement (view pc) = .own (view after) :=
        alike.of_statement here
      simp [Program.step?, State.view, Action.view, running, Status.view,
        there, view_update]

omit [DecidableEq Id] in
/-- The other program tells the same of a step that leaves the data. -/
theorem view_emit
    (alike : LocksAs view program other)
    (leaves : ¬ Works program state action)
    (seen : Seen) :
    other.emit (state.view view seen) (action.view view) =
      (program.emit state action).map (viewEvent view) := by
  cases action with
  | call id pc => rfl
  | step id =>
      cases thread : state.threads id with
      | asleep pc | woken pc =>
          simp [Program.emit, State.view, Action.view, thread, Status.view]
      | running pc =>
          cases here : program.statement pc with
          | work run => exact (leaves ⟨id, pc, run, rfl, thread, here⟩).elim
          | _ =>
              have there := alike.of_statement here
              simp only [Statement.LocksAs] at there
              simp [Program.emit, State.view, Action.view, thread,
                Status.view, here, there, viewEvent]

end Viewing

end EPuckTavern.Transition.Monitor
