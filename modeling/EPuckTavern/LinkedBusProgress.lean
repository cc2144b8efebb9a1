import EPuckTavern.LinkedBusRefinement
import EPuckTavern.Transition.Waiting

namespace EPuckTavern.LinkedBus

open Data Transition Transition.Monitor MessageBus

/-!
# Calls on the linked bus come back

With no topic advertised twice, a thread that gets its steps comes to the end
of its call, however many topics the others advertise meanwhile; only
`messagebus_find_topic_blocking` may sleep on the way, and only while no topic
of its name stands on the bus.
-/

variable {Topic Letter Id : Type}

section Listing

variable [DecidableEq Letter] {list : TopicList Topic Letter}

/-- `topic_by_name` finds a topic of the name. -/
def OnBus (list : TopicList Topic Letter) (name : List Letter) : Prop :=
  ∃ fuel topic, list.find? fuel name = some (some topic)

/-- The list has the topics of the bus that it links. -/
theorem onBus_iff
    {bus : Bus Topic Letter}
    {name : List Letter}
    (represents : Represents list bus) :
    OnBus list name ↔ topicByName? bus name ≠ none := by
  have atEnd := represents.find? (Nat.le_refl bus.length) name
  constructor
  · rintro ⟨fuel, topic, found⟩ absent
    have searched :=
      represents.find? (Nat.le_max_right fuel bus.length) name
    have again : list.find? (max fuel bus.length) name = some (some topic) :=
      walk?_mono found (Nat.le_max_left fuel bus.length)
    rw [searched, absent] at again
    cases again
  · intro present
    obtain ⟨topic, found⟩ := Option.ne_none_iff_exists'.mp present
    exact ⟨bus.length, topic, by rw [atEnd, found]⟩

end Listing

/-- A thread is in no call, or asleep. -/
def Rests : Status (Pc Topic Letter) → Prop
  | .running .outside | .running .advertised | .running (.found _)
  | .running (.blockingFound _) | .asleep _ => True
  | _ => False

variable [DecidableEq Letter]

/--
The steps of its own, before the last one, that a thread needs for its call,
among so many topics.
-/
def Needs
    (topics : Nat)
    (next : Topic → Option Topic)
    (bus : Bus Topic Letter) : Status (Pc Topic Letter) → Nat → Prop
  | .running (.advertiseClear _ _), needed => 5 ≤ needed
  | .running (.advertiseName _ _), needed => 4 ≤ needed
  | .running (.advertiseAcquire _ _), needed => 3 ≤ needed
  | .running (.advertiseLink _ _), needed => 2 ≤ needed
  | .running (.advertiseBroadcast _ _), needed => 1 ≤ needed
  | .running (.findAcquire _), needed
  | .running (.blockingAcquire _), needed
  | .woken _, needed => topics + 3 ≤ needed
  | .running (.findHead _), needed
  | .running (.blockingHead _), needed => topics + 2 ≤ needed
  | .running (.findNext name t), needed
  | .running (.blockingNext name t), needed =>
      ∃ rest, Ahead next bus name t rest ∧ rest.length + 1 ≤ needed
  | .running (.advertiseRelease _ _), _
  | .running (.findRelease _ _), _
  | .running (.blockingWait _), _
  | .running (.blockingRelease _ _), _ => True
  | _, _ => False

variable [DecidableEq Topic] [DecidableEq Id]

section Stepping

variable
  {past : List (Action Id (Pc Topic Letter))}
  {state next : State Id (TopicList Topic Letter) (Pc Topic Letter)}
  {action : Action Id (Pc Topic Letter)}
  {bus after : Bus Topic Letter}
  {topics needed : Nat}
  {id : Id}

omit [DecidableEq Topic] [DecidableEq Letter] [DecidableEq Id] in
/-- A statement of another kind leaves the bus and the pointers alone. -/
theorem Grows.stays
    {pc : Pc Topic Letter}
    (grows : Grows state next (.step id) bus after)
    (running : state.threads id = .running pc)
    (notLink : ∀ topic name, pc ≠ .advertiseLink topic name) :
    after = bus ∧ next.shared.next = state.shared.next := by
  rcases grows with ⟨⟨_, topic, name, same, links⟩, -⟩ | unchanged
  · cases same
    cases running.symm.trans links
    exact (notLink topic name rfl).elim
  · exact unchanged

/-- Each step of its own brings a thread nearer to the end of its call. -/
theorem needs_own_step
    (follows : Follows past state bus)
    (few : bus.length ≤ topics)
    (grows : Grows state next (.step id) bus after)
    (needs : Needs topics state.shared.next bus (state.threads id) needed)
    (taken : program.step? state (.step id) = some next) :
    Rests (next.threads id) ∨
      ∃ fewer,
        fewer + 1 ≤ needed ∧
          Needs topics next.shared.next after (next.threads id) fewer := by
  cases thread : state.threads id with
  | asleep pc =>
      rw [thread] at needs
      exact needs.elim
  | woken pc =>
      have relied := follows.relies id
      rw [thread] at needs relied
      obtain ⟨name, rfl⟩ := relied
      simp only [Program.step?, thread] at taken
      split at taken
      · cases taken
        exact .inr ⟨topics + 2, needs, by simp [Needs]⟩
      · cases taken
  | running pc =>
      rw [thread] at needs
      simp only [Program.step?, thread] at taken
      cases pc with
      | outside | advertised | found res | blockingFound res =>
          exact needs.elim
      | advertiseClear topic name =>
          cases taken
          exact .inr ⟨4, needs, by simp [Needs]⟩
      | advertiseName topic name =>
          cases taken
          exact .inr ⟨3, needs, by simp [Needs]⟩
      | advertiseAcquire topic name =>
          simp only [program, statement] at taken
          split at taken
          · cases taken
            exact .inr ⟨2, needs, by simp [Needs]⟩
          · cases taken
      | advertiseLink topic name =>
          cases taken
          exact .inr ⟨1, needs, by simp [Needs]⟩
      | advertiseBroadcast topic name =>
          cases taken
          exact .inr ⟨0, needs, by simp [Needs]⟩
      | findAcquire name | blockingAcquire name =>
          simp only [program, statement] at taken
          split at taken
          · cases taken
            exact .inr ⟨topics + 2, needs, by simp [Needs]⟩
          · cases taken
      | findHead name | blockingHead name =>
          have unchanged := grows.stays thread fun _ _ link => by cases link
          cases taken
          cases unchanged.1
          refine .inr ⟨topics + 1, needs, ?_⟩
          simpa [Needs] using
            ⟨bus, ahead_of_represents follows.represents name, few⟩
      | findNext name t =>
          have unchanged := grows.stays thread fun _ _ link => by cases link
          obtain ⟨rest, ahead, enough⟩ := needs
          rcases ahead.round_cases follows.represents with
            returned | ⟨entry, later, rfl, goesOn, aheadLater⟩
          · simp only [program, statement, returned] at taken
            cases taken
            exact .inr ⟨rest.length, enough, by simp [Needs]⟩
          · simp only [program, statement, goesOn] at taken
            cases taken
            cases unchanged.1
            exact .inr ⟨later.length + 1, enough,
              by simpa [Needs] using ⟨later, aheadLater, Nat.le_refl _⟩⟩
      | blockingNext name t =>
          have unchanged := grows.stays thread fun _ _ link => by cases link
          obtain ⟨rest, ahead, enough⟩ := needs
          rcases ahead.round_cases follows.represents with
            returned | ⟨entry, later, rfl, goesOn, aheadLater⟩
          · simp only [program, statement, returned] at taken
            cases taken
            refine .inr ⟨rest.length, enough, ?_⟩
            cases found : topicByName? bus name <;> simp [Needs]
          · simp only [program, statement, goesOn] at taken
            cases taken
            cases unchanged.1
            exact .inr ⟨later.length + 1, enough,
              by simpa [Needs] using ⟨later, aheadLater, Nat.le_refl _⟩⟩
      | advertiseRelease topic name | findRelease name res
      | blockingRelease name res | blockingWait name =>
          cases taken
          exact .inl (by simp [Rests])

/-- What other threads do takes a thread no farther from it. -/
theorem needs_of_other
    (exclusive : Exclusive program state)
    (grows : Grows state next action bus after)
    (needs : Needs topics state.shared.next bus (state.threads id) needed)
    (taken : program.step? state action = some next)
    (other : action.thread ≠ id) :
    Needs topics next.shared.next after (next.threads id) needed := by
  have same : next.threads id = state.threads id := by
    rcases threads_of_other taken other with same | woken
    · exact same
    · rw [woken]
      cases thread : state.threads id with
      | asleep pc =>
          rw [thread] at needs
          exact needs.elim
      | running pc | woken pc => rfl
  rw [same]
  rcases grows with ⟨⟨linker, topic, name, rfl, links⟩, -⟩ | ⟨rfl, kept⟩
  · -- Who links has the lock, so this thread does not search.
    have owned := exclusive.only linker _ links rfl
    cases thread : state.threads id with
    | asleep pc | woken pc =>
        rw [thread] at needs
        exact needs
    | running pc =>
        rw [thread] at needs
        cases pc with
        | findNext name t | blockingNext name t =>
            have alsoOwned := exclusive.only id _ thread rfl
            exact (other (Option.some.inj (owned.symm.trans alsoOwned))).elim
        | _ => exact needs
  · rw [kept]
    exact needs

/-- No topic is advertised twice, and no more than so many are at all. -/
def AtMost
    (topics : Nat)
    (actions : List (Action Id (Pc Topic Letter))) : Prop :=
  (advertisedTopics actions).Nodup ∧
    (advertisedTopics actions).length ≤ topics

omit [DecidableEq Letter] [DecidableEq Topic] [DecidableEq Id] in
/-- What bounds a run bounds its beginning. -/
theorem AtMost.earlier
    {later : List (Action Id (Pc Topic Letter))}
    (atMost : AtMost topics (past ++ later)) :
    AtMost topics past := by
  simp only [AtMost, advertisedTopics, List.filterMap_append,
    List.length_append] at atMost ⊢
  exact ⟨atMost.1.of_append_left, by omega⟩

omit [DecidableEq Topic] [DecidableEq Id] in
/-- The bus has no more topics than have been advertised. -/
theorem Follows.length_le
    (follows : Follows past state bus)
    (atMost : AtMost topics past) :
    bus.length ≤ topics := by
  have fewer :=
    (List.subperm_of_subset follows.single follows.listed).length_le
  rw [List.length_map] at fewer
  exact fewer.trans atMost.2

/-- Step lemma: a thread ends its call, or comes no farther from it. -/
theorem needs_step
    (exclusive : Exclusive program state)
    (follows : Follows past state bus)
    (few : bus.length ≤ topics)
    (grows : Grows state next action bus after)
    (needs : Needs topics state.shared.next bus (state.threads id) needed)
    (taken : program.step? state action = some next) :
    Rests (next.threads id) ∨
      ∃ fewer,
        Needs topics next.shared.next after (next.threads id) fewer ∧
          fewer + (if action.isStepOf id then 1 else 0) ≤ needed := by
  by_cases own : action.thread = id
  · subst own
    cases action with
    | call id pc =>
        -- A thread that begins a call is in none.
        obtain ⟨threads, called, rfl⟩ := Option.map_eq_some_iff.mp taken
        obtain ⟨current, running, idle, -, -⟩ := called?_eq_some called
        simp only [Action.thread, running] at needs
        cases current <;> first | exact needs.elim | cases idle
    | step id =>
        rcases needs_own_step follows few grows needs taken with
          ended | ⟨fewer, nearer, left⟩
        · exact .inl ended
        · refine .inr ⟨fewer, left, ?_⟩
          simpa [Action.isStepOf, Action.thread] using nearer
  · have notOwn : action.isStepOf id = false := by
      cases action with
      | call other pc => rfl
      | step other => simpa [Action.isStepOf, Action.thread] using own
    exact .inr ⟨needed, needs_of_other exclusive grows needs taken own,
      by simp [notOwn]⟩

/-- The calls and the bus fit together, and a call needs so many steps. -/
def Nears
    (topics : Nat)
    (id : Id)
    (past : List (Action Id (Pc Topic Letter)))
    (state : State Id (TopicList Topic Letter) (Pc Topic Letter))
    (needed : Nat) : Prop :=
  Exclusive program state ∧
    ∃ bus,
      Follows past state bus ∧
        Needs topics state.shared.next bus (state.threads id) needed

/-- A step rests the thread, or leaves fewer of its own steps to be taken. -/
theorem nears_step
    (nears : Nears topics id past state needed)
    (atMost : AtMost topics (past ++ [action]))
    (taken : program.step? state action = some next) :
    Rests (next.threads id) ∨
      ∃ fewer,
        Nears topics id (past ++ [action]) next fewer ∧
          fewer + (if action.isStepOf id then 1 else 0) ≤ needed := by
  obtain ⟨exclusive, bus, follows, needs⟩ := nears
  obtain ⟨after, -, -, -, followsAfter, grows⟩ :=
    reflected_step exclusive follows atMost.1 taken
  rcases needs_step exclusive follows (follows.length_le atMost.earlier)
      grows needs taken with
    ended | ⟨fewer, left, nearer⟩
  · exact .inl ended
  · exact .inr ⟨fewer,
      ⟨exclusive_step exclusive taken, after, followsAfter, left⟩, nearer⟩

end Stepping

omit [DecidableEq Topic] [DecidableEq Id] in
/-- What a thread in a call needs is bounded by the topics. -/
theorem exists_needs
    {past : List (Action Id (Pc Topic Letter))}
    {state : State Id (TopicList Topic Letter) (Pc Topic Letter)}
    {bus : Bus Topic Letter}
    {topics : Nat}
    (follows : Follows past state bus)
    (few : bus.length ≤ topics)
    (id : Id)
    (awake : ¬ Rests (state.threads id)) :
    ∃ needed,
      needed ≤ topics + 5 ∧
        Needs topics state.shared.next bus (state.threads id) needed := by
  have relied := follows.relies id
  cases thread : state.threads id with
  | asleep pc =>
      rw [thread] at awake
      exact (awake trivial).elim
  | woken pc => exact ⟨topics + 3, by omega, by simp [Needs]⟩
  | running pc =>
      rw [thread] at awake relied
      cases pc with
      | outside | advertised | found res | blockingFound res =>
          exact (awake trivial).elim
      | findNext name t | blockingNext name t =>
          obtain ⟨rest, ahead⟩ := relied
          have shorter := ahead.suffix.length_le
          exact ⟨rest.length + 1, by omega,
            by simpa [Needs] using ⟨rest, ahead, Nat.le_refl _⟩⟩
      | _ =>
          exact ⟨topics + 5, Nat.le_refl _, by simp [Needs]⟩

/-- From a reached state on, a thread with enough steps ends its call. -/
theorem rests_of_enough
    {past actions : List (Action Id (Pc Topic Letter))}
    {state final : State Id (TopicList Topic Letter) (Pc Topic Letter)}
    {id : Id}
    (reached : run? program.step? start past = some state)
    (ran : run? program.step? state actions = some final)
    (once : (advertisedTopics (past ++ actions)).Nodup)
    (enough :
      (advertisedTopics (past ++ actions)).length + 6 ≤
        actions.countP (Action.isStepOf id)) :
    ∃ leading trailing middle,
      actions = leading ++ trailing ∧
        run? program.step? state leading = some middle ∧
        Rests (middle.threads id) := by
  have atMost :
      AtMost (advertisedTopics (past ++ actions)).length
        (past ++ actions) :=
    ⟨once, Nat.le_refl _⟩
  obtain ⟨bus, _, _, _, follows⟩ := follows_run reached atMost.earlier.1
  by_cases atRest : Rests (state.threads id)
  · exact ⟨[], actions, state, rfl, rfl, atRest⟩
  · obtain ⟨needed, bound, needs⟩ :=
      exists_needs follows (follows.length_le atMost.earlier) id atRest
    exact
      @run?_reaches_within _ _ program.step?
        (Nears (advertisedTopics (past ++ actions)).length id)
        (fun state => Rests (state.threads id)) (AtMost _)
        (Action.isStepOf id) nears_step AtMost.earlier past actions state
        final needed ⟨exclusive_of_run reached, bus, follows, needs⟩ atMost
        ran (by omega)

/--
No lost wakeup: while the lock of the bus is free, no thread sleeps until a
topic is advertised that stands on the bus already.
-/
theorem absent_of_asleep
    {actions : List (Action Id (Pc Topic Letter))}
    {state : State Id (TopicList Topic Letter) (Pc Topic Letter)}
    {id : Id}
    {pc : Pc Topic Letter}
    (ran : run? program.step? start actions = some state)
    (once : (advertisedTopics actions).Nodup)
    (free : state.owner = none)
    (asleep : state.threads id = .asleep pc) :
    ∃ name, pc = .blockingHead name ∧ ¬ OnBus state.shared name := by
  obtain ⟨bus, seen, seenRun, -, follows⟩ := follows_run ran once
  have relied := follows.relies id
  rw [asleep] at relied
  obtain ⟨name, rfl⟩ := relied
  have seenAsleep :
      (state.view view bus).threads id = .asleep (.blockingLook name) := by
    simp [State.view, asleep, Status.view, view]
  obtain ⟨sought, same, absent⟩ :=
    MessageBus.absent_of_asleep ⟨seen, seenRun⟩ free seenAsleep
  cases same
  refine ⟨name, rfl, fun onBus => ?_⟩
  exact (onBus_iff follows.represents).mp onBus absent

/--
No deadlock, where no topic is advertised twice: in a state in which no thread
can go on with its call, each thread is in no call, or sleeps in
`messagebus_find_topic_blocking` until a topic is advertised that is not on
the bus.  From every state on, a thread that gets six steps, and one for each
topic, comes to the end of its call on the way, or falls asleep.
-/
theorem stuck_only_for_absent
    {past : List (Action Id (Pc Topic Letter))}
    {state : State Id (TopicList Topic Letter) (Pc Topic Letter)}
    (reached : run? program.step? start past = some state)
    (once : (advertisedTopics past).Nodup) :
    ((∀ id, program.step? state (.step id) = none) →
      ∀ id,
        (∃ pc, state.threads id = .running pc ∧ statement pc = .idle) ∨
          ∃ name,
            state.threads id = .asleep (.blockingHead name) ∧
              ¬ OnBus state.shared name) ∧
    ∀ {actions final} (id : Id),
      run? program.step? state actions = some final →
      (advertisedTopics (past ++ actions)).Nodup →
      (advertisedTopics (past ++ actions)).length + 6 ≤
        actions.countP (Action.isStepOf id) →
      ∃ leading trailing middle,
        actions = leading ++ trailing ∧
          run? program.step? state leading = some middle ∧
          Rests (middle.threads id) := by
  refine ⟨fun stuck id => ?_, fun id ran onceLater enough =>
    rests_of_enough reached ran onceLater enough⟩
  have exclusive := exclusive_of_run reached
  refine (exclusive.rests_of_stuck stuck id).imp_right ?_
  rintro ⟨pc, asleep⟩
  obtain ⟨name, rfl, absent⟩ :=
    absent_of_asleep reached once (exclusive.free_of_stuck stuck) asleep
  exact ⟨name, asleep, absent⟩

/-- The proximity topic is advertised, and a thread waits for the camera's. -/
def cameraAwaited : List (Action Bool (Pc Nat Char)) :=
  .call false (.advertiseClear 0 ['p']) :: List.replicate 6 (.step false) ++
    .call true (.blockingAcquire ['c']) :: List.replicate 5 (.step true)

/-- Then the camera's topic is about to be advertised. -/
def cameraBegun : List (Action Bool (Pc Nat Char)) :=
  cameraAwaited ++ [.call false (.advertiseClear 1 ['c'])]

/-- It is advertised, and the other one looked up. -/
def cameraAdvertised : List (Action Bool (Pc Nat Char)) :=
  List.replicate 6 (.step false) ++
    .call false (.findAcquire ['p']) :: List.replicate 5 (.step false)

/-- The state after some actions. -/
def stateAfter
    (actions : List (Action Bool (Pc Nat Char))) :
    State Bool (TopicList Nat Char) (Pc Nat Char) :=
  (run? program.step? start actions).getD start

theorem stuck_only_for_absent_camera :
    ((∃ pc,
        (stateAfter cameraAwaited).threads true = .running pc ∧
          statement pc = .idle) ∨
      ∃ name,
        (stateAfter cameraAwaited).threads true =
            .asleep (.blockingHead name) ∧
          ¬ OnBus (stateAfter cameraAwaited).shared name) ∧
    ∃ leading trailing middle,
      cameraAdvertised = leading ++ trailing ∧
        run? program.step? (stateAfter cameraBegun) leading =
          some middle ∧
        Rests (middle.threads false) :=
  ⟨(stuck_only_for_absent
      (show run? program.step? start cameraAwaited =
          some (stateAfter cameraAwaited) from
        run?_eq_some_getD rfl)
      (by decide)).1 (fun id => by cases id <;> rfl) true,
    (stuck_only_for_absent
      (show run? program.step? start cameraBegun =
          some (stateAfter cameraBegun) from
        run?_eq_some_getD rfl)
      (by decide)).2 false (run?_eq_some_getD rfl) (by decide)
        (by decide)⟩

end EPuckTavern.LinkedBus
