import EPuckTavern.LinkedBusProgress

namespace EPuckTavern.LinkedBus

open Data Transition Transition.Monitor MessageBus

/-!
# What a find on the linked bus gives

With no topic advertised twice, both finds give the topic advertised last
under the name.  A blocking one comes back once a topic of the name stands on
the bus, whatever other threads advertise meanwhile.
-/

variable {Topic Letter Id : Type}

/-- The entries of the topics advertised, oldest first. -/
def entriesOf
    (events : List (Id × Pc Topic Letter)) : List (Entry Topic Letter) :=
  events.filterMap fun event =>
    match event.2 with
    | .advertiseRelease topic name => some (named topic name)
    | _ => none

/-- The bus of entries is told of the same entries. -/
theorem entriesOf_view
    (events : List (Id × Pc Topic Letter)) :
    MessageBus.entriesOf (events.map (viewEvent view)) =
      entriesOf events := by
  rw [MessageBus.entriesOf, List.filterMap_map]
  refine List.filterMap_congr fun event _ => ?_
  obtain ⟨id, pc⟩ := event
  cases pc <;> rfl

variable [DecidableEq Letter] [DecidableEq Topic] [DecidableEq Id]

/--
In every interleaving in which no topic is advertised twice, a find gives the
topic that has been advertised last under the name, or `NULL` if none has, and
a blocking find comes back with that topic only.
-/
theorem finds_last_advertised
    {actions : List (Action Id (Pc Topic Letter))}
    {final : State Id (TopicList Topic Letter) (Pc Topic Letter)}
    {earlier later : List (Id × Pc Topic Letter)}
    {event : Id × Pc Topic Letter}
    {name : List Letter}
    {res : Option Topic}
    (ran : run? program.step? start actions = some final)
    (once : (advertisedTopics actions).Nodup)
    (told :
      trace program.step? program.emit start actions =
        earlier ++ event :: later)
    (finds :
      event.2 = .findRelease name res ∨
        ∃ topic,
          event.2 = .blockingRelease name topic ∧ res = some topic) :
    res = topicByName? (entriesOf earlier).reverse name := by
  obtain ⟨bus, seen, seenRun, toldSame, -⟩ := follows_run ran once
  obtain ⟨_, accepted, -⟩ := matches_run seenRun
  rw [toldSame, told, List.map_append, List.map_cons] at accepted
  rw [← entriesOf_view]
  refine finds_of_accepted accepted ?_
  rcases finds with found | ⟨topic, found, rfl⟩
  · exact .inl (by simp [viewEvent, found, view])
  · exact .inr ⟨topic, by simp [viewEvent, found, view], rfl⟩

/--
One thread stores the name of its topic while another one links its own, and
then links it before that.  Both topics have one name, and it is looked up.
-/
def underOneName : List (Action Bool (Pc Nat Char)) :=
  .call true (.advertiseClear 0 ['p']) ::
    .call false (.advertiseClear 1 ['p']) ::
    List.replicate 3 (.step true) ++ List.replicate 2 (.step false) ++
    List.replicate 3 (.step true) ++ List.replicate 4 (.step false) ++
    .call true (.findAcquire ['p']) :: List.replicate 4 (.step true)

theorem finds_last_advertised_underOneName :
    some 1 =
      topicByName?
        (entriesOf
          [(true, .advertiseRelease 0 ['p']),
            (false, .advertiseRelease 1 ['p'])]).reverse
        ['p'] :=
  @finds_last_advertised Nat Char Bool _ _ _ underOneName _
    [(true, .advertiseRelease 0 ['p']), (false, .advertiseRelease 1 ['p'])]
    [] (true, .findRelease ['p'] (some 1)) ['p'] (some 1)
    (run?_eq_some_getD rfl) (by decide) rfl (.inl rfl)

/-- A thread is in `messagebus_find_topic_blocking`, outside the lock. -/
def LooksFor
    (name : List Letter) : Status (Pc Topic Letter) → Prop
  | .running (.blockingAcquire sought)
  | .asleep (.blockingHead sought)
  | .woken (.blockingHead sought) => sought = name
  | _ => False

/-- A thread looks for a topic that stands on the bus, or has found it. -/
def Seeks
    (name : List Letter)
    (bus : Bus Topic Letter) : Status (Pc Topic Letter) → Prop
  | .running (.blockingAcquire sought)
  | .woken (.blockingHead sought)
  | .running (.blockingHead sought)
  | .running (.blockingNext sought _) => sought = name
  | .running (.blockingRelease sought res) =>
      sought = name ∧ ∃ entry ∈ bus, entry.topic = res ∧ entry.name = name
  | _ => False

/-- The call has come back with a topic of the list that has the name. -/
def Found
    (id : Id)
    (name : List Letter)
    (state : State Id (TopicList Topic Letter) (Pc Topic Letter)) : Prop :=
  ∃ topic topics,
    state.threads id = .running (.blockingFound topic) ∧
      state.shared.name topic = name ∧
      Linked state.shared.next state.shared.head topics ∧ topic ∈ topics

section Seeking

variable
  {past : List (Action Id (Pc Topic Letter))}
  {state next : State Id (TopicList Topic Letter) (Pc Topic Letter)}
  {action : Action Id (Pc Topic Letter)}
  {bus after : Bus Topic Letter}
  {topics needed : Nat}
  {id : Id}
  {name : List Letter}

omit [DecidableEq Topic] [DecidableEq Id] in
/-- A larger bus has the name of each of its topics. -/
theorem topicByName?_ne_none_of_subset
    {bus later : Bus Topic Letter}
    {name : List Letter}
    (present : topicByName? bus name ≠ none)
    (subset : bus ⊆ later) :
    topicByName? later name ≠ none := by
  simp only [topicByName?, ne_eq, Option.map_eq_none_iff,
    List.find?_eq_none, not_forall] at present ⊢
  obtain ⟨entry, member, same⟩ := present
  exact ⟨entry, subset member, same⟩

omit [DecidableEq Topic] [DecidableEq Id] in
/-- The topic found is one that has been linked under the name. -/
theorem mem_of_topicByName?
    {res : Topic}
    (found : topicByName? bus name = some res) :
    ∃ entry ∈ bus, entry.topic = res ∧ entry.name = name := by
  obtain ⟨entry, first, rfl⟩ := Option.map_eq_some_iff.mp found
  have named : name = entry.name := by simpa using List.find?_some first
  exact ⟨entry, List.mem_of_find?_eq_some first, rfl, named.symm⟩

omit [DecidableEq Letter] [DecidableEq Topic] in
/-- On a larger bus the topic found is still there. -/
theorem Seeks.mono
    {status : Status (Pc Topic Letter)}
    (seeks : Seeks name bus status)
    (subset : bus ⊆ after) :
    Seeks name after status := by
  unfold Seeks at seeks ⊢
  split at seeks
  · exact seeks
  · exact seeks
  · exact seeks
  · exact seeks
  · obtain ⟨sought, entry, member, rest⟩ := seeks
    exact ⟨sought, entry, subset member, rest⟩
  · exact seeks.elim

/-- Each own step leaves the thread looking, or brings the topic. -/
theorem seeks_own_step
    (follows : Follows past state bus)
    (followsAfter : Follows (past ++ [.step id]) next after)
    (subset : bus ⊆ after)
    (present : topicByName? bus name ≠ none)
    (seeks : Seeks name bus (state.threads id))
    (taken : program.step? state (.step id) = some next) :
    Found id name next ∨ Seeks name after (next.threads id) := by
  have relied := follows.relies id
  cases thread : state.threads id with
  | asleep pc =>
      rw [thread] at seeks
      exact seeks.elim
  | woken pc =>
      rw [thread] at seeks
      simp only [Program.step?, thread] at taken
      split at taken
      · cases taken
        cases pc with
        | blockingHead sought => exact .inr (by simpa [Seeks] using seeks)
        | _ => exact seeks.elim
      · cases taken
  | running pc =>
      rw [thread] at seeks relied
      simp only [Program.step?, thread] at taken
      cases pc with
      | blockingAcquire sought =>
          simp only [program, statement] at taken
          split at taken
          · cases taken
            exact .inr (by simpa [Seeks] using seeks)
          · cases taken
      | blockingHead sought =>
          cases taken
          exact .inr (by simpa [Seeks] using seeks)
      | blockingNext sought t =>
          cases seeks
          obtain ⟨rest, ahead⟩ := relied
          rcases ahead.round_cases follows.represents with
            returned | ⟨_, _, -, goesOn, -⟩
          · cases found : topicByName? bus name with
            | none => exact (present found).elim
            | some res =>
                obtain ⟨entry, member, listed⟩ := mem_of_topicByName? found
                simp only [program, statement, returned, found] at taken
                cases taken
                exact .inr (by
                  simpa [Seeks] using ⟨entry, subset member, listed⟩)
          · simp only [program, statement, goesOn] at taken
            cases taken
            exact .inr (by simp [Seeks])
      | blockingRelease sought res =>
          obtain ⟨-, entry, member, rfl, same⟩ := seeks
          have stored :=
            followsAfter.represents.names entry (subset member)
          cases taken
          exact .inl ⟨entry.topic, after.map Entry.topic, by simp,
            stored.trans same, followsAfter.represents.linked,
            List.mem_map_of_mem (subset member)⟩
      | _ => exact seeks.elim

omit [DecidableEq Letter] [DecidableEq Topic] [DecidableEq Id] in
/-- A thread that seeks a topic does not rest. -/
theorem Seeks.not_rests
    {status : Status (Pc Topic Letter)}
    (seeks : Seeks name bus status) :
    ¬ Rests status := by
  unfold Seeks at seeks
  split at seeks <;> first | exact False.elim | exact seeks.elim

/-- A thread looks for a topic of the bus, and needs so many steps. -/
def NearsTopic
    (topics : Nat)
    (id : Id)
    (name : List Letter)
    (past : List (Action Id (Pc Topic Letter)))
    (state : State Id (TopicList Topic Letter) (Pc Topic Letter))
    (needed : Nat) : Prop :=
  Exclusive program state ∧
    ∃ bus,
      Follows past state bus ∧
        topicByName? bus name ≠ none ∧
        Seeks name bus (state.threads id) ∧
        Needs topics state.shared.next bus (state.threads id) needed

/-- What other threads do leaves the thread looking for its topic. -/
theorem seeks_of_other
    (subset : bus ⊆ after)
    (seeks : Seeks name bus (state.threads id))
    (taken : program.step? state action = some next)
    (other : action.thread ≠ id) :
    Seeks name after (next.threads id) := by
  rcases threads_of_other taken other with same | woken
  · rw [same]
    exact seeks.mono subset
  · rw [woken]
    cases thread : state.threads id with
    | asleep pc =>
        rw [thread] at seeks
        exact seeks.elim
    | running pc | woken pc =>
        rw [thread] at seeks
        exact seeks.mono subset

/-- Step lemma: the topic is found, or the search is nearer to its end. -/
theorem nearsTopic_step
    (nears : NearsTopic topics id name past state needed)
    (atMost : AtMost topics (past ++ [action]))
    (taken : program.step? state action = some next) :
    Found id name next ∨
      ∃ fewer,
        NearsTopic topics id name (past ++ [action]) next fewer ∧
          fewer + (if action.isStepOf id then 1 else 0) ≤ needed := by
  obtain ⟨exclusive, bus, follows, present, seeks, needs⟩ := nears
  obtain ⟨after, -, -, -, followsAfter, grows⟩ :=
    reflected_step exclusive follows atMost.1 taken
  have subset : bus ⊆ after := by
    rcases grows with ⟨-, subset⟩ | ⟨rfl, -⟩
    · exact subset
    · exact List.Subset.refl _
  have goesOn : Found id name next ∨ Seeks name after (next.threads id) := by
    by_cases own : action.thread = id
    · subst own
      cases action with
      | call id pc =>
          obtain ⟨threads, called, rfl⟩ := Option.map_eq_some_iff.mp taken
          obtain ⟨current, running, idle, -, -⟩ := called?_eq_some called
          simp only [Action.thread, running] at seeks
          cases current <;> first | exact seeks.elim | cases idle
      | step id =>
          exact seeks_own_step follows followsAfter subset present seeks taken
    · exact .inr (seeks_of_other subset seeks taken own)
  refine goesOn.imp_right fun seeksAfter => ?_
  rcases needs_step exclusive follows (follows.length_le atMost.earlier)
      grows needs taken with
    ended | ⟨fewer, left, nearer⟩
  · exact (seeksAfter.not_rests ended).elim
  · exact ⟨fewer,
      ⟨exclusive_step exclusive taken, after, followsAfter,
        topicByName?_ne_none_of_subset present subset, seeksAfter, left⟩,
      nearer⟩

end Seeking

/-- The waiting thread goes on, and then looks up the other topic. -/
def cameraFound : List (Action Bool (Pc Nat Char)) :=
  List.replicate 4 (.step true) ++
    .call true (.findAcquire ['p']) :: List.replicate 2 (.step true)

end EPuckTavern.LinkedBus
