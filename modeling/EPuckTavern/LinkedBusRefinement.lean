import EPuckTavern.BusHistory
import EPuckTavern.LinkedBus

namespace EPuckTavern.LinkedBus

open Data Transition Transition.Monitor MessageBus

/-!
# The linked bus is the bus of entries, for topics advertised once

As long as no topic is advertised twice, the list links the topics of the bus
of entries, a name is stored while only its own thread knows the topic, and a
search comes to the end of the list.  Then each step on the list is a step on
the bus of entries, or the search goes on.
-/

variable {Topic Letter Id : Type}

section Searching

variable
  [DecidableEq Letter]
  {list : TopicList Topic Letter}
  {bus rest : Bus Topic Letter}
  {name : List Letter}
  {t : Option Topic}

/-- What a search has before it, from `t` on, decides what it finds. -/
structure Ahead
    (next : Topic → Option Topic)
    (bus : Bus Topic Letter)
    (name : List Letter)
    (t : Option Topic)
    (rest : Bus Topic Letter) : Prop where
  linked : Linked next t (rest.map Entry.topic)
  suffix : rest <:+ bus
  same : topicByName? bus name = topicByName? rest name

/-- At the head of the list all of it is ahead. -/
theorem ahead_of_represents
    (represents : Represents list bus)
    (name : List Letter) :
    Ahead list.next bus name list.head bus where
  linked := represents.linked
  suffix := List.suffix_rfl
  same := rfl

/-- A round finds what stands on the bus, or one topic less is ahead. -/
theorem Ahead.round_cases
    (ahead : Ahead list.next bus name t rest)
    (represents : Represents list bus) :
    round list name t = .returned (topicByName? bus name) ∨
      ∃ entry later,
        rest = entry :: later ∧
          round list name t = .goesOn (list.next entry.topic) ∧
          Ahead list.next bus name (list.next entry.topic) later := by
  obtain ⟨linked, suffix, same⟩ := ahead
  cases rest with
  | nil =>
      cases linked
      exact .inl (by rw [same]; rfl)
  | cons entry later =>
      obtain ⟨rfl, linkedLater⟩ := linked
      have stored : list.name entry.topic = entry.name :=
        represents.names entry (suffix.subset List.mem_cons_self)
      by_cases wanted : name = entry.name
      · subst wanted
        refine .inl ?_
        rw [same]
        simp [round, stored, topicByName?]
      · refine .inr ⟨entry, later, rfl, ?_, linkedLater,
          (List.suffix_cons entry later).trans suffix, ?_⟩
        · simp [round, stored, wanted]
        · rw [same, topicByName?, topicByName?, List.find?_cons_of_neg]
          simpa using wanted

end Searching

variable [DecidableEq Letter]

/-- The topic that a thread advertises and has not linked yet. -/
def unlinked? : Status (Pc Topic Letter) → Option Topic
  | .running (.advertiseClear topic _)
  | .running (.advertiseName topic _)
  | .running (.advertiseAcquire topic _)
  | .running (.advertiseLink topic _) => some topic
  | _ => none

/-- What a thread relies on: the name it has stored, or the list ahead. -/
def Relies
    (list : TopicList Topic Letter)
    (bus : Bus Topic Letter) : Status (Pc Topic Letter) → Prop
  | .running (.advertiseAcquire topic name)
  | .running (.advertiseLink topic name) =>
      list.name topic = (named topic name).name
  | .running (.findNext name t)
  | .running (.blockingNext name t) => ∃ rest, Ahead list.next bus name t rest
  | .asleep pc | .woken pc => ∃ name, pc = .blockingHead name
  | _ => True

/-- The list and the threads fit to the bus, after these actions. -/
structure Follows
    (past : List (Action Id (Pc Topic Letter)))
    (state : State Id (TopicList Topic Letter) (Pc Topic Letter))
    (bus : Bus Topic Letter) : Prop where
  represents : Represents state.shared bus
  single : (bus.map Entry.topic).Nodup
  listed : ∀ topic ∈ bus.map Entry.topic, topic ∈ advertisedTopics past
  fresh :
    ∀ {id topic},
      unlinked? (state.threads id) = some topic →
      topic ∈ advertisedTopics past ∧ topic ∉ bus.map Entry.topic
  alone :
    ∀ {id other topic},
      unlinked? (state.threads id) = some topic →
      unlinked? (state.threads other) = some topic →
      id = other
  relies : ∀ id, Relies state.shared bus (state.threads id)

section Following

variable
  [DecidableEq Id]
  {past later : List (Action Id (Pc Topic Letter))}
  {state next : State Id (TopicList Topic Letter) (Pc Topic Letter)}
  {bus : Bus Topic Letter}
  {action : Action Id (Pc Topic Letter)}

/--
One thread moves, and the list or the bus may change with it: what it brings
along fits, and so does what the others have.
-/
theorem Follows.of_update
    {id : Id}
    {owner : Option Id}
    {list : TopicList Topic Letter}
    {after : Bus Topic Letter}
    {status : Status (Pc Topic Letter)}
    (follows : Follows past state bus)
    (subset : advertisedTopics past ⊆ advertisedTopics later)
    (represents : Represents list after)
    (single : (after.map Entry.topic).Nodup)
    (listed : ∀ topic ∈ after.map Entry.topic, topic ∈ advertisedTopics later)
    (own :
      ∀ topic,
        unlinked? status = some topic →
        topic ∈ advertisedTopics later ∧
          topic ∉ after.map Entry.topic ∧
          ∀ other, other ≠ id → unlinked? (state.threads other) ≠ some topic)
    (others :
      ∀ other topic,
        other ≠ id →
        unlinked? (state.threads other) = some topic →
        topic ∉ after.map Entry.topic)
    (relies : Relies list after status)
    (stillRely :
      ∀ other, other ≠ id → Relies list after (state.threads other)) :
    Follows later
      { state with
        shared := list
        owner := owner
        threads := Function.update state.threads id status }
      after := by
  have cases_of {other : Id} {topic : Topic}
      (here :
        unlinked? (Function.update state.threads id status other) =
          some topic) :
      (other = id ∧ unlinked? status = some topic) ∨
        other ≠ id ∧ unlinked? (state.threads other) = some topic := by
    by_cases same : other = id
    · subst same
      exact .inl ⟨rfl, by simpa using here⟩
    · exact .inr ⟨same, by simpa [same] using here⟩
  exact
    { represents := represents
      single := single
      listed := listed
      fresh := fun here => by
        rcases cases_of here with ⟨-, mine⟩ | ⟨different, before⟩
        · exact ⟨(own _ mine).1, (own _ mine).2.1⟩
        · exact ⟨subset (follows.fresh before).1,
            others _ _ different before⟩
      alone := fun here there => by
        rcases cases_of here with ⟨rfl, mine⟩ | ⟨different, before⟩ <;>
          rcases cases_of there with ⟨rfl, alsoMine⟩ | ⟨otherwise, also⟩
        · rfl
        · exact ((own _ mine).2.2 _ otherwise also).elim
        · exact ((own _ alsoMine).2.2 _ different before).elim
        · exact follows.alone before also
      relies := fun other => by
        by_cases same : other = id
        · subst same
          simpa using relies
        · simpa [same] using stillRely other same }

omit [DecidableEq Id] in
/-- What is not linked yet is nobody else's. -/
theorem Follows.only
    {id other : Id}
    {topic : Topic}
    (follows : Follows past state bus)
    (own : unlinked? (state.threads id) = some topic)
    (different : other ≠ id) :
    unlinked? (state.threads other) ≠ some topic :=
  fun also => different (follows.alone also own)

/-- A thread goes on, with the list and the bus as they are. -/
theorem Follows.moves
    {id : Id}
    {owner : Option Id}
    {status : Status (Pc Topic Letter)}
    (follows : Follows past state bus)
    (subset : advertisedTopics past ⊆ advertisedTopics later)
    (keeps :
      ∀ topic,
        unlinked? status = some topic →
        unlinked? (state.threads id) = some topic)
    (relies : Relies state.shared bus status) :
    Follows later
      { state with
        owner := owner
        threads := Function.update state.threads id status }
      bus :=
  follows.of_update subset follows.represents follows.single
    (fun topic member => subset (follows.listed topic member))
    (fun topic mine =>
      ⟨subset (follows.fresh (keeps topic mine)).1,
        (follows.fresh (keeps topic mine)).2,
        fun _ different => follows.only (keeps topic mine) different⟩)
    (fun _ _ _ before => (follows.fresh before).2)
    relies (fun other _ => follows.relies other)

omit [DecidableEq Id] in
/-- Threads that are woken rely on nothing else. -/
theorem Follows.wakes
    (follows : Follows past state bus) :
    Follows past { state with threads := Status.wake ∘ state.threads }
      bus := by
  have before {id : Id} {topic : Topic}
      (here : unlinked? (state.threads id).wake = some topic) :
      unlinked? (state.threads id) = some topic := by
    cases thread : state.threads id with
    | running pc => simpa [thread, Status.wake] using here
    | asleep pc | woken pc => simp [thread, Status.wake, unlinked?] at here
  exact
    { represents := follows.represents
      single := follows.single
      listed := follows.listed
      fresh := fun here => follows.fresh (before here)
      alone := fun here there => follows.alone (before here) (before there)
      relies := fun id => by
        have relied := follows.relies id
        cases thread : state.threads id with
        | running pc => simpa [thread, Status.wake] using relied
        | asleep pc | woken pc =>
            simpa [thread, Status.wake, Relies] using relied }

omit [DecidableEq Id] [DecidableEq Letter] in
/-- The topics of a run with one more action. -/
theorem advertisedTopics_snoc
    (past : List (Action Id (Pc Topic Letter)))
    (action : Action Id (Pc Topic Letter)) :
    advertisedTopics (past ++ [action]) =
      advertisedTopics past ++ advertisedTopics [action] :=
  List.filterMap_append

omit [DecidableEq Id] [DecidableEq Letter] in
theorem subset_snoc
    (past : List (Action Id (Pc Topic Letter)))
    (action : Action Id (Pc Topic Letter)) :
    advertisedTopics past ⊆ advertisedTopics (past ++ [action]) := by
  rw [advertisedTopics_snoc]
  exact List.subset_append_left _ _

/-- A call of `messagebus_advertise_topic` for a topic without another. -/
theorem Follows.callAdvertise
    {id : Id}
    {topic : Topic}
    {name : List Letter}
    (follows : Follows past state bus)
    (once :
      (advertisedTopics
        (past ++ [.call id (.advertiseClear topic name)])).Nodup) :
    Follows (past ++ [.call id (.advertiseClear topic name)])
      { state with
        threads :=
          Function.update state.threads id
            (.running (.advertiseClear topic name)) }
      bus := by
  have first : topic ∉ advertisedTopics past := by
    rw [advertisedTopics_snoc] at once
    exact fun again =>
      List.disjoint_of_nodup_append once again List.mem_cons_self
  have subset :=
    subset_snoc past (.call id (.advertiseClear topic name))
  refine follows.of_update subset follows.represents follows.single
    (fun current member => subset (follows.listed current member))
    (fun current mine => ?_)
    (fun _ _ _ before => (follows.fresh before).2)
    trivial (fun other _ => follows.relies other)
  cases Option.some.inj mine
  refine ⟨?_, fun member => first (follows.listed _ member),
    fun _ _ before => first (follows.fresh before).1⟩
  rw [advertisedTopics_snoc]
  exact List.mem_append_right _ List.mem_cons_self

/-- Step lemma: where the list stays, the same bus fits to it. -/
theorem follows_of_leaves
    [DecidableEq Topic]
    (follows : Follows past state bus)
    (once : (advertisedTopics (past ++ [action])).Nodup)
    (taken : program.step? state action = some next)
    (leaves : ¬ Works program state action) :
    Follows (past ++ [action]) next bus := by
  have subset := subset_snoc past action
  cases move_of_step? taken with
  | @call id pc threads called =>
      obtain ⟨current, running, -, isEntry, rfl⟩ := called?_eq_some called
      cases pc with
      | advertiseClear topic name => exact follows.callAdvertise once
      | findAcquire name | blockingAcquire name =>
          exact follows.moves subset (fun _ none => by cases none) trivial
      | _ => cases isEntry
  | @acquire id pc after running here free =>
      have relied := follows.relies id
      rw [running] at relied
      cases pc with
      | advertiseAcquire topic name =>
          cases here
          exact follows.moves subset (fun _ own => by rw [running]; exact own)
            relied
      | findAcquire name | blockingAcquire name =>
          cases here
          exact follows.moves subset (fun _ none => by cases none) trivial
      | _ => cases here
  | @resume id pc woken free =>
      have relied := follows.relies id
      rw [woken] at relied
      obtain ⟨name, rfl⟩ := relied
      exact follows.moves subset (fun _ none => by cases none) trivial
  | @release id pc after running here =>
      cases pc with
      | advertiseRelease topic name | findRelease name res
      | blockingRelease name res =>
          cases here
          exact follows.moves subset (fun _ none => by cases none) trivial
      | _ => cases here
  | @condWait id pc after running here =>
      cases pc with
      | blockingWait name =>
          cases here
          exact follows.moves subset (fun _ none => by cases none)
            ⟨name, rfl⟩
      | _ => cases here
  | @broadcast id pc after running here =>
      cases pc with
      | advertiseBroadcast topic name =>
          cases here
          exact follows.wakes.moves subset (fun _ none => by cases none)
            trivial
      | _ => cases here
  | work running here =>
      exact (leaves ⟨_, _, _, rfl, running, here⟩).elim
  | @own id pc after running here =>
      cases pc <;> cases here

variable [DecidableEq Topic]

/-- A topic has its name written while it is not linked. -/
theorem Follows.writes
    {id : Id}
    {topic : Topic}
    {stored : List Letter}
    {status : Status (Pc Topic Letter)}
    (follows : Follows past state bus)
    (subset : advertisedTopics past ⊆ advertisedTopics later)
    (own : unlinked? (state.threads id) = some topic)
    (same : unlinked? status = some topic)
    (relies :
      Relies
        { state.shared with
          name := Function.update state.shared.name topic stored }
        bus status) :
    Follows later
      { state with
        shared := {
          state.shared with
          name := Function.update state.shared.name topic stored }
        threads := Function.update state.threads id status }
      bus := by
  have others (other : Id) (different : other ≠ id) :
      Relies
        { state.shared with
          name := Function.update state.shared.name topic stored }
        bus (state.threads other) := by
    have relied := follows.relies other
    cases thread : state.threads other with
    | asleep pc | woken pc =>
        rw [thread] at relied
        exact relied
    | running pc =>
        rw [thread] at relied
        cases pc with
        | advertiseAcquire current name | advertiseLink current name =>
            have notSame : current ≠ topic := by
              rintro rfl
              exact follows.only own different (by rw [thread]; rfl)
            simpa [Relies, notSame] using relied
        | findNext name t | blockingNext name t => exact relied
        | _ => trivial
  refine follows.of_update subset
    (follows.represents.rename (follows.fresh own).2 stored) follows.single
    (fun current member => subset (follows.listed current member))
    (fun current mine => ?_)
    (fun _ _ _ before => (follows.fresh before).2) relies others
  cases Option.some.inj (same.symm.trans mine)
  exact ⟨subset (follows.fresh own).1, (follows.fresh own).2,
    fun _ different => follows.only own different⟩

/-- The owner of the lock links its topic. -/
theorem Follows.links
    {id : Id}
    {topic : Topic}
    {name : List Letter}
    {status : Status (Pc Topic Letter)}
    (follows : Follows past state bus)
    (exclusive : Exclusive program state)
    (subset : advertisedTopics past ⊆ advertisedTopics later)
    (here : state.threads id = .running (.advertiseLink topic name))
    (linked : unlinked? status = none)
    (relies :
      Relies (state.shared.link topic) (named topic name :: bus) status) :
    Follows later
      { state with
        shared := state.shared.link topic
        threads := Function.update state.threads id status }
      (named topic name :: bus) := by
  have own : unlinked? (state.threads id) = some topic := by
    rw [here]
    rfl
  have owned : state.owner = some id :=
    exclusive.only id _ here rfl
  have stored := follows.relies id
  rw [here] at stored
  have others (other : Id) (different : other ≠ id) :
      Relies (state.shared.link topic) (named topic name :: bus)
        (state.threads other) := by
    have relied := follows.relies other
    cases thread : state.threads other with
    | asleep pc | woken pc =>
        rw [thread] at relied
        exact relied
    | running pc =>
        rw [thread] at relied
        cases pc with
        | findNext sought t | blockingNext sought t =>
            -- Who searches has the lock, so nobody links meanwhile.
            have alsoOwned := exclusive.only other _ thread rfl
            exact (different
              (Option.some.inj (alsoOwned.symm.trans owned))).elim
        | _ => exact relied
  refine follows.of_update subset
    (follows.represents.link (follows.fresh own).2 stored)
    (follows.single.cons (follows.fresh own).2) (fun current member => ?_)
    (fun _ mine => by cases linked.symm.trans mine)
    (fun other current different before member => ?_) relies others
  · rcases List.mem_cons.mp member with rfl | member
    · exact subset (follows.fresh own).1
    · exact subset (follows.listed current member)
  · rcases List.mem_cons.mp member with rfl | member
    · exact follows.only own different before
    · exact (follows.fresh before).2 member

/-- The step puts a topic into the list. -/
def Links
    (state : State Id (TopicList Topic Letter) (Pc Topic Letter))
    (action : Action Id (Pc Topic Letter)) : Prop :=
  ∃ id topic name,
    action = .step id ∧
      state.threads id = .running (.advertiseLink topic name)

/-- A topic is linked, or the bus and the pointers stay as they are. -/
def Grows
    (state next : State Id (TopicList Topic Letter) (Pc Topic Letter))
    (action : Action Id (Pc Topic Letter))
    (bus after : Bus Topic Letter) : Prop :=
  Links state action ∧ bus ⊆ after ∨
    after = bus ∧ next.shared.next = state.shared.next

/-- The step is told on the bus of entries, which fits again. -/
def Reflected
    (past : List (Action Id (Pc Topic Letter)))
    (action : Action Id (Pc Topic Letter))
    (state next : State Id (TopicList Topic Letter) (Pc Topic Letter))
    (bus : Bus Topic Letter) : Prop :=
  ∃ after seen,
    run? MessageBus.program.step? (state.view view bus) seen =
        some (next.view view after) ∧
      trace MessageBus.program.step? MessageBus.program.emit
          (state.view view bus) seen =
        (program.emit state action).map (viewEvent view) ∧
      Follows (past ++ [action]) next after ∧
      Grows state next action bus after

/-- A thread goes on where the bus of entries does not see it. -/
theorem reflected_of_unseen
    {id : Id}
    {pc goesOn : Pc Topic Letter}
    {list : TopicList Topic Letter}
    (running : state.threads id = .running pc)
    (silent : program.emit state (.step id) = [])
    (unseen : view goesOn = view pc)
    (follows :
      Follows (past ++ [.step id])
        { state with
          shared := list
          threads := Function.update state.threads id (.running goesOn) }
        bus)
    (kept : list.next = state.shared.next) :
    Reflected past (.step id) state
      { state with
        shared := list
        threads := Function.update state.threads id (.running goesOn) }
      bus := by
  refine ⟨bus, [], ?_, ?_, follows, .inr ⟨rfl, kept⟩⟩
  · rw [run?_nil, view_unseen running unseen]
  · rw [trace_nil, silent, List.map_nil]

/-- One statement of the code is one on the bus of entries. -/
theorem reflected_of_step
    {id : Id}
    {after : Bus Topic Letter}
    (taken :
      MessageBus.program.step? (state.view view bus) (.step id) =
        some (next.view view after))
    (silent :
      MessageBus.program.emit (state.view view bus) (.step id) = [])
    (quiet : program.emit state (.step id) = [])
    (follows : Follows (past ++ [.step id]) next after)
    (grows : Grows state next (.step id) bus after) :
    Reflected past (.step id) state next bus := by
  refine ⟨after, [.step id], run?_cons_of_step taken [], ?_, follows, grows⟩
  rw [trace_cons_of_step taken, silent, quiet]
  rfl

/-- A statement works on the list as its like does on the bus of entries. -/
theorem reflected_of_work
    {id : Id}
    {pc goesOn : Pc Topic Letter}
    {list : TopicList Topic Letter}
    {after : Bus Topic Letter}
    {run :
      Bus Topic Letter → Bus Topic Letter × MessageBus.Pc Topic Letter}
    (running : state.threads id = .running pc)
    (quiet : program.emit state (.step id) = [])
    (there : MessageBus.program.statement (view pc) = .work run)
    (comes : run bus = (after, view goesOn))
    (follows :
      Follows (past ++ [.step id])
        { state with
          shared := list
          threads := Function.update state.threads id (.running goesOn) }
        after)
    (grows :
      Grows state
        { state with
          shared := list
          threads := Function.update state.threads id (.running goesOn) }
        (.step id) bus after) :
    Reflected past (.step id) state
      { state with
        shared := list
        threads := Function.update state.threads id (.running goesOn) }
      bus := by
  refine reflected_of_step ?_ ?_ quiet follows grows
  · simp [Program.step?, State.view, running, Status.view, there, comes,
      view_update]
  · simp [Program.emit, State.view, running, Status.view, there]

/-- Step lemma: the statements that work on the list. -/
theorem reflected_of_works
    (exclusive : Exclusive program state)
    (follows : Follows past state bus)
    (taken : program.step? state action = some next)
    (works : Works program state action) :
    Reflected past action state next bus := by
  obtain ⟨id, pc, run, rfl, running, here⟩ := works
  have subset := subset_snoc past (.step id)
  have relied := follows.relies id
  have quiet : program.emit state (.step id) = [] := by
    simp [Program.emit, running, here]
  rw [running] at relied
  simp only [Program.step?, running, here] at taken
  cases taken
  cases pc with
  | advertiseClear topic name =>
      cases here
      exact reflected_of_unseen running quiet rfl
        (follows.writes subset (by rw [running]; rfl) rfl trivial) rfl
  | advertiseName topic name =>
      -- On the bus of entries the name is stored by the thread alone.
      cases here
      refine reflected_of_step ?_ ?_ quiet
        (follows.writes subset (by rw [running]; rfl) rfl
          (Function.update_self _ _ _))
        (.inr ⟨rfl, rfl⟩)
      · simp [Program.step?, State.view, running, Status.view, view,
          MessageBus.program, MessageBus.statement, view_update]
      · simp [Program.emit, State.view, running, Status.view, view,
          MessageBus.program, MessageBus.statement]
  | advertiseLink topic name =>
      cases here
      exact reflected_of_work running quiet rfl rfl
        (follows.links exclusive subset running rfl trivial)
        (.inl ⟨⟨id, topic, name, rfl, running⟩, List.subset_cons_self _ _⟩)
  | findHead name | blockingHead name =>
      cases here
      exact reflected_of_unseen running quiet rfl
        (follows.moves subset (fun _ none => by cases none)
          ⟨bus, ahead_of_represents follows.represents name⟩)
        rfl
  | findNext name t =>
      cases here
      obtain ⟨rest, ahead⟩ := relied
      rcases ahead.round_cases follows.represents with
        returned | ⟨entry, later, -, goesOn, aheadLater⟩
      · simp only [returned]
        exact reflected_of_work running quiet rfl rfl
          (follows.moves subset (fun _ none => by cases none) trivial)
          (.inr ⟨rfl, rfl⟩)
      · simp only [goesOn]
        exact reflected_of_unseen running quiet rfl
          (follows.moves subset (fun _ none => by cases none)
            ⟨later, aheadLater⟩)
          rfl
  | blockingNext name t =>
      cases here
      obtain ⟨rest, ahead⟩ := relied
      rcases ahead.round_cases follows.represents with
        returned | ⟨entry, later, -, goesOn, aheadLater⟩
      · simp only [returned]
        cases found : topicByName? bus name with
        | none =>
            exact reflected_of_work running quiet rfl (by simp [found, view])
              (follows.moves subset (fun _ none => by cases none) trivial)
              (.inr ⟨rfl, rfl⟩)
        | some res =>
            exact reflected_of_work running quiet rfl (by simp [found, view])
              (follows.moves subset (fun _ none => by cases none) trivial)
              (.inr ⟨rfl, rfl⟩)
      · simp only [goesOn]
        exact reflected_of_unseen running quiet rfl
          (follows.moves subset (fun _ none => by cases none)
            ⟨later, aheadLater⟩)
          rfl
  | _ => cases here

/-- Step lemma: every step, for a topic advertised once. -/
theorem reflected_step
    (exclusive : Exclusive program state)
    (follows : Follows past state bus)
    (once : (advertisedTopics (past ++ [action])).Nodup)
    (taken : program.step? state action = some next) :
    Reflected past action state next bus := by
  by_cases works : Works program state action
  · exact reflected_of_works exclusive follows taken works
  · have step := view_step? locksAs taken works bus
    have kept := shared_of_leaves taken works
    refine ⟨bus, [action.view view], run?_cons_of_step step [], ?_,
      follows_of_leaves follows once taken works, .inr ⟨rfl, by rw [kept]⟩⟩
    rw [trace_cons_of_step step, view_emit locksAs works, trace_nil,
      List.append_nil]

end Following

/-- The empty list follows the empty bus. -/
theorem follows_start :
    Follows [] (start : State Id (TopicList Topic Letter) _) [] where
  represents := represents_init
  single := List.nodup_nil
  listed _ member := by cases member
  fresh none := by cases none
  alone none := by cases none
  relies _ := trivial

variable [DecidableEq Topic] [DecidableEq Id]

/-- Mutual exclusion on the linked bus. -/
theorem exclusive_of_run
    {actions : List (Action Id (Pc Topic Letter))}
    {final : State Id (TopicList Topic Letter) (Pc Topic Letter)}
    (ran : run? program.step? start actions = some final) :
    Exclusive program final :=
  exclusive_of_reachable rfl ⟨actions, ran⟩

/--
Run lemma: a run in which no topic is advertised twice is one on the bus of
entries, where the threads tell the same.
-/
theorem follows_run
    {actions : List (Action Id (Pc Topic Letter))}
    {final : State Id (TopicList Topic Letter) (Pc Topic Letter)}
    (ran : run? program.step? start actions = some final)
    (once : (advertisedTopics actions).Nodup) :
    ∃ bus seen,
      run? MessageBus.program.step? (boot [] .outside) seen =
          some (final.view view bus) ∧
        trace MessageBus.program.step? MessageBus.program.emit
            (boot [] .outside) seen =
          (trace program.step? program.emit start actions).map
            (viewEvent view) ∧
        Follows actions final bus := by
  induction actions using List.reverseRecOn generalizing final with
  | nil =>
      cases ran
      exact ⟨[], [], rfl, rfl, follows_start⟩
  | append_singleton past action inductionHypothesis =>
      obtain ⟨state, before, after⟩ := run?_append_eq_some.mp ran
      obtain ⟨next, taken, same⟩ := run?_cons_eq_some.mp after
      cases same
      have onceBefore : (advertisedTopics past).Nodup := by
        rw [advertisedTopics_snoc] at once
        exact once.of_append_left
      obtain ⟨bus, seen, seenRun, told, follows⟩ :=
        inductionHypothesis before onceBefore
      obtain ⟨bus', more, moreRun, toldMore, followsAfter, -⟩ :=
        reflected_step (exclusive_of_run before) follows once taken
      refine ⟨bus', seen ++ more, run?_append seenRun moreRun, ?_,
        followsAfter⟩
      rw [trace_append seenRun, trace_append before, told, toldMore,
        List.map_append, trace_cons_of_step taken, trace_nil,
        List.append_nil]

end EPuckTavern.LinkedBus
