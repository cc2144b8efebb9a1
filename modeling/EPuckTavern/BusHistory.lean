import EPuckTavern.MessageBus

namespace EPuckTavern.MessageBus

open Transition Transition.Monitor

/-!
# What the users of the bus see

Each call, and each look of a blocking one, happens at once between two
others.  No thread sleeps while a topic with the name it looks for stands on
the bus: what it has seen and its falling asleep are in one section, and every
new topic wakes it.
-/

variable {Topic Letter Id : Type} [DecidableEq Letter] [DecidableEq Id]

/-- A bus whose calls happen at once, by the statements that leave the lock. -/
def atomicStep?
    [DecidableEq Topic] :
    Step (Bus Topic Letter) (Id × Pc Topic Letter)
  | bus, (_, .advertiseRelease entry) => some (entry :: bus)
  | bus, (_, .findRelease name res) =>
      if res = topicByName? bus name then some bus else none
  | bus, (_, .blockingWait name) =>
      if topicByName? bus name = none then some bus else none
  | bus, (_, .blockingRelease name res) =>
      if topicByName? bus name = some res then some bus else none
  | _, _ => none

/-- The atomic bus stands where the monitor stands between two sections. -/
structure Matches
    (settled : Settled Id (Bus Topic Letter) (Pc Topic Letter))
    (bus : Bus Topic Letter) : Prop where
  shared : settled.shared = bus
  asleep :
    ∀ id pc,
      settled.threads id = .asleep pc →
      ∃ name, pc = .blockingLook name ∧ topicByName? bus name = none
  woken :
    ∀ id pc,
      settled.threads id = .woken pc →
      ∃ name, pc = .blockingLook name

/-- The statements that take the lock, and what comes of their sections. -/
theorem acquire_cases
    {pc after : Pc Topic Letter}
    (here : statement pc = .acquire after) :
    (∃ entry, after = .advertiseLink entry) ∨
      (∃ name, after = .findLook name) ∨
      ∃ name, after = .blockingLook name := by
  cases pc with
  | advertiseAcquire entry =>
      cases here
      exact .inl ⟨entry, rfl⟩
  | findAcquire name =>
      cases here
      exact .inr (.inl ⟨name, rfl⟩)
  | blockingAcquire name =>
      cases here
      exact .inr (.inr ⟨name, rfl⟩)
  | _ => cases here

section Matching

variable
  {settled : Settled Id (Bus Topic Letter) (Pc Topic Letter)}
  {bus : Bus Topic Letter}

theorem matches_update
    {status : Status (Pc Topic Letter)}
    (same : Matches settled bus)
    (id : Id)
    (sleeps :
      ∀ pc,
        status = .asleep pc →
        ∃ name, pc = .blockingLook name ∧ topicByName? bus name = none)
    (awake : ∀ pc, status ≠ .woken pc) :
    Matches
      { settled with threads := Function.update settled.threads id status }
      bus where
  shared := same.shared
  asleep other pc here := by
    by_cases own : other = id
    · subst own
      exact sleeps pc (by simpa using here)
    · exact same.asleep other pc (by simpa [own] using here)
  woken other pc here := by
    by_cases own : other = id
    · subst own
      exact (awake pc (by simpa using here)).elim
    · exact same.woken other pc (by simpa [own] using here)

theorem matches_running
    (same : Matches settled bus)
    (id : Id)
    (pc : Pc Topic Letter) :
    Matches
      { settled with
        threads := Function.update settled.threads id (.running pc) }
      bus :=
  matches_update same id (fun _ impossible => by cases impossible)
    (fun _ impossible => by cases impossible)

/-- A new topic leaves nobody asleep. -/
theorem matches_advertise
    (same : Matches settled bus)
    (entry : Entry Topic Letter)
    (id : Id)
    (pc : Pc Topic Letter) :
    Matches
      { shared := entry :: settled.shared
        threads :=
          Function.update (Status.wake ∘ settled.threads) id
            (.running pc) }
      (entry :: bus) := by
  have woken :
      Matches
        { shared := entry :: settled.shared
          threads := Status.wake ∘ settled.threads }
        (entry :: bus) :=
    { shared := by rw [same.shared]
      asleep := fun other pc here => by simp at here
      woken := fun other pc here => by
        rcases Status.wake_eq_woken.mp here with slept | woke
        · obtain ⟨name, looks, -⟩ := same.asleep other pc slept
          exact ⟨name, looks⟩
        · exact same.woken other pc woke }
  exact matches_running woken id pc

variable [DecidableEq Topic]

/-- A look of `messagebus_find_topic_blocking`, and what comes of it. -/
theorem matches_look
    (same : Matches settled bus)
    (id : Id)
    (name : List Letter) :
    atomicStep? bus (id, (finish (.blockingLook name) settled.shared).leaves) =
        some bus ∧
      Matches
        (program.enter (finish (.blockingLook name) settled.shared)
          settled.threads id)
        bus := by
  rw [same.shared]
  cases found : topicByName? bus name with
  | some res =>
      simp only [finish, found, atomicStep?, if_true]
      refine ⟨trivial, ?_⟩
      have moved := matches_running same id (.blockingFound res)
      rw [same.shared] at moved
      exact moved
  | none =>
      simp only [finish, found, atomicStep?, if_true]
      refine ⟨trivial, ?_⟩
      have moved :=
        @matches_update _ _ _ _ _ settled bus
          (.asleep (.blockingLook name)) same id
          (fun pc here => by
            cases here
            exact ⟨name, rfl, found⟩)
          (fun _ impossible => by cases impossible)
      rw [same.shared] at moved
      exact moved

/-- Step lemma: each section is a call that the atomic bus accepts. -/
theorem matches_step
    {after : Settled Id (Bus Topic Letter) (Pc Topic Letter)}
    {action : Action Id (Pc Topic Letter)}
    (same : Matches settled bus)
    (taken : sections.step? settled action = some after) :
    ∃ bus',
      run? atomicStep? bus (sections.emit settled action) = some bus' ∧
        Matches after bus' := by
  rcases Sections.step?_cases taken with
    ⟨id, before, pc, -, rfl, silent⟩ |
    ⟨id, pc, enters, rfl, told⟩
  · exact ⟨bus, by rw [silent]; rfl, matches_running same id pc⟩
  · rw [told]
    rcases enters with ⟨before, -, here⟩ | woken
    · rcases acquire_cases here with
        ⟨entry, rfl⟩ | ⟨name, rfl⟩ | ⟨name, rfl⟩
      · exact ⟨entry :: bus, rfl, matches_advertise same entry id _⟩
      · refine ⟨bus, ?_, matches_running same id _⟩
        simp [sections, finish, run?, atomicStep?, same.shared]
      · obtain ⟨accepted, moved⟩ := matches_look same id name
        exact ⟨bus, run?_cons_of_step accepted [], moved⟩
    · obtain ⟨name, rfl⟩ := same.woken id pc woken
      obtain ⟨accepted, moved⟩ := matches_look same id name
      exact ⟨bus, run?_cons_of_step accepted [], moved⟩

end Matching

omit [DecidableEq Id] in
theorem matches_boot :
    Matches
      (⟨[], fun _ => .running .outside⟩ :
        Settled Id (Bus Topic Letter) (Pc Topic Letter))
      [] where
  shared := rfl
  asleep _ _ impossible := by cases impossible
  woken _ _ impossible := by cases impossible

variable [DecidableEq Topic]

/-- Run lemma: the atomic bus accepts the calls of every run. -/
theorem matches_run
    {actions : List (Action Id (Pc Topic Letter))}
    {final : State Id (Bus Topic Letter) (Pc Topic Letter)}
    (ran : run? program.step? (boot [] .outside) actions = some final) :
    ∃ bus,
      run? atomicStep? []
          (trace program.step? program.emit (boot [] .outside) actions) =
        some bus ∧
        (final.owner = none →
          Matches ⟨final.shared, final.threads⟩ bus) :=
  Sections.trace_accepted_of_sections matches_step
    (exclusive_boot _ rfl) rfl matches_boot ran

/--
No lost wakeup: while the lock of the bus is free, no thread sleeps until a
topic is advertised that stands on the bus already.
-/
theorem absent_of_asleep
    {state : State Id (Bus Topic Letter) (Pc Topic Letter)}
    {id : Id}
    {pc : Pc Topic Letter}
    (reachable : Reachable program.step? (boot [] .outside) state)
    (free : state.owner = none)
    (asleep : state.threads id = .asleep pc) :
    ∃ name,
      pc = .blockingLook name ∧ topicByName? state.shared name = none := by
  obtain ⟨actions, ran⟩ := reachable
  obtain ⟨bus, -, settled⟩ := matches_run ran
  have same : state.shared = bus := (settled free).shared
  rw [same]
  exact (settled free).asleep id pc asleep

/-- The entries of the topics advertised, oldest first. -/
def entriesOf
    (events : List (Id × Pc Topic Letter)) : List (Entry Topic Letter) :=
  events.filterMap fun event =>
    match event.2 with
    | .advertiseRelease entry => some entry
    | _ => none

omit [DecidableEq Id] in
/-- A call advertises an entry, or leaves the bus as it is and reads it. -/
theorem atomicStep?_cases
    {bus next : Bus Topic Letter}
    {event : Id × Pc Topic Letter}
    (taken : atomicStep? bus event = some next) :
    (∃ entry, event.2 = .advertiseRelease entry ∧ next = entry :: bus) ∨
      next = bus ∧
        ((∃ name, event.2 = .findRelease name (topicByName? bus name)) ∨
          (∃ name,
            event.2 = .blockingWait name ∧
              topicByName? bus name = none) ∨
          ∃ name res,
            event.2 = .blockingRelease name res ∧
              topicByName? bus name = some res) := by
  obtain ⟨id, pc⟩ := event
  cases pc with
  | advertiseRelease entry =>
      cases taken
      exact .inl ⟨entry, rfl, rfl⟩
  | findRelease name res =>
      simp only [atomicStep?] at taken
      split at taken
      · rename_i found
        cases taken
        exact .inr ⟨rfl, .inl ⟨name, by rw [found]⟩⟩
      · cases taken
  | blockingWait name =>
      simp only [atomicStep?] at taken
      split at taken
      · rename_i absent
        cases taken
        exact .inr ⟨rfl, .inr (.inl ⟨name, rfl, absent⟩)⟩
      · cases taken
  | blockingRelease name res =>
      simp only [atomicStep?] at taken
      split at taken
      · rename_i found
        cases taken
        exact .inr ⟨rfl, .inr (.inr ⟨name, res, rfl, found⟩)⟩
      · cases taken
  | _ => cases taken

omit [DecidableEq Id] in
/-- The bus is the topics advertised so far, the last one first. -/
theorem entriesOf_step
    {past : List (Id × Pc Topic Letter)}
    {bus next : Bus Topic Letter}
    {event : Id × Pc Topic Letter}
    (holds : bus = (entriesOf past).reverse)
    (taken : atomicStep? bus event = some next) :
    next = (entriesOf (past ++ [event])).reverse := by
  rcases atomicStep?_cases taken with ⟨entry, told, rfl⟩ | ⟨rfl, told⟩
  · simp [entriesOf, told, holds]
  · rcases told with ⟨name, told⟩ | ⟨name, told, -⟩ | ⟨name, res, told, -⟩ <;>
      simp [entriesOf, told, holds]

omit [DecidableEq Id] in
/--
In a history that the atomic bus accepts, a find gives the topic that has been
advertised last under the name, or `NULL` if none has, and a blocking find
comes back with that topic only.
-/
theorem finds_of_accepted
    {bus : Bus Topic Letter}
    {earlier later : List (Id × Pc Topic Letter)}
    {event : Id × Pc Topic Letter}
    {name : List Letter}
    {res : Option Topic}
    (accepted :
      run? atomicStep? [] (earlier ++ event :: later) = some bus)
    (finds :
      event.2 = .findRelease name res ∨
        ∃ topic,
          event.2 = .blockingRelease name topic ∧ res = some topic) :
    res = topicByName? (entriesOf earlier).reverse name := by
  obtain ⟨middle, before, after⟩ := run?_append_eq_some.mp accepted
  obtain ⟨next, taken, -⟩ := run?_cons_eq_some.mp after
  have listed : middle = (entriesOf earlier).reverse :=
    @run?_history _ _ atomicStep?
      (fun past bus => bus = (entriesOf past).reverse)
      entriesOf_step [] earlier [] middle rfl before
  rw [← listed]
  rcases atomicStep?_cases taken with
    ⟨_, advertised, -⟩ |
    ⟨-, ⟨_, found⟩ | ⟨_, waited, -⟩ | ⟨_, topic, blocking, found⟩⟩
  · rcases finds with impossible | ⟨_, impossible, -⟩ <;>
      cases advertised.symm.trans impossible
  · rcases finds with looked | ⟨_, impossible, -⟩
    · cases found.symm.trans looked
      rfl
    · cases found.symm.trans impossible
  · rcases finds with impossible | ⟨_, impossible, -⟩ <;>
      cases waited.symm.trans impossible
  · rcases finds with impossible | ⟨_, looked, rfl⟩
    · cases blocking.symm.trans impossible
    · cases blocking.symm.trans looked
      exact found.symm

end EPuckTavern.MessageBus
