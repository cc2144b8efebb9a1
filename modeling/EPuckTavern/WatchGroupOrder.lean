import EPuckTavern.WatchGroups

namespace EPuckTavern.WatchGroups

open Transition Transition.LockOrder

/-!
# Publishers, watchers and waiters do not block each other

A publisher reads the group of each watcher that it comes to four times.  As
long as no watcher is put into a second group these are one group, the locks
are given back that were taken, and no threads wait for each other's locks.
-/

variable {Topic Watcher Group Byte Id : Type} {bufferLen : Topic → Nat}

/-- The states of the threads, the locks and the lists. -/
abbrev System
    (Id Watcher Group Byte : Type)
    {Topic : Type}
    (bufferLen : Topic → Nat) :=
  State Id (Lock Topic Group) (Shared Watcher Group Byte bufferLen)
    (Pc Watcher Group Byte bufferLen)

/-- The watcher that a thread is about to put into a group. -/
def putsIn? :
    Status (Lock Topic Group) (Pc Watcher Group Byte bufferLen) →
    Option (Watcher × Group)
  | .running (.watchGroup watcher group _) => some (watcher, group)
  | _ => none

/-- No watcher is put into a second group. -/
def KeepsGroups
    (state : System Id Watcher Group Byte bufferLen) :
    Action Id (Pc Watcher Group Byte bufferLen) → Prop
  | .call _ _ => True
  | .step id =>
      ∀ put ∈ putsIn? (state.threads id),
        state.shared.group put.1 = none ∨
          state.shared.group put.1 = some put.2

instance decidableKeepsGroups
    [DecidableEq Group]
    (state : System Id Watcher Group Byte bufferLen) :
    ∀ action, Decidable (KeepsGroups state action)
  | .call _ _ => inferInstanceAs (Decidable True)
  | .step _ => inferInstanceAs (Decidable (∀ put ∈ (_ : Option _), _))

/-- The watchers in the lists of the topics belong to groups. -/
structure Linked (shared : Shared Watcher Group Byte bufferLen) : Prop where
  watchers :
    ∀ topic watcher,
      shared.watchers topic = some watcher →
      shared.group watcher ≠ none
  next :
    ∀ watcher later,
      shared.next watcher = some later →
      shared.group later ≠ none

/-- The watchers that a thread is about to follow belong to groups. -/
def Reads
    (shared : Shared Watcher Group Byte bufferLen) :
    Pc Watcher Group Byte bufferLen → Prop
  | .publishAcquire _ _ w =>
      ∀ watcher, w = some watcher → shared.group watcher ≠ none
  | .publishMark _ _ w | .publishWake _ _ w | .publishLeave _ _ w
  | .watchNext w _ _ | .watchFirst w _ _ => shared.group w ≠ none
  | _ => True

/-- Groups of watchers stay what they are. -/
def Extends
    (shared later : Shared Watcher Group Byte bufferLen) : Prop :=
  ∀ watcher,
    shared.group watcher ≠ none →
    later.group watcher = shared.group watcher

theorem Extends.refl
    (shared : Shared Watcher Group Byte bufferLen) :
    Extends shared shared :=
  fun _ _ => rfl

/-- What a thread has read stays true when more is added. -/
theorem Extends.reads
    {shared later : Shared Watcher Group Byte bufferLen}
    {pc : Pc Watcher Group Byte bufferLen}
    (kept : Extends shared later)
    (reads : Reads shared pc) :
    Reads later pc := by
  cases pc with
  | publishAcquire topic message w =>
      intro watcher here
      rw [kept watcher (reads watcher here)]
      exact reads watcher here
  | publishMark topic message w | publishWake topic message w
  | publishLeave topic message w | watchNext w group topic
  | watchFirst w group topic =>
      simpa only [Reads, kept w reads] using reads
  | _ => trivial

section

variable [DecidableEq Topic] [DecidableEq Watcher] [DecidableEq Group]

omit [DecidableEq Topic] [DecidableEq Watcher] [DecidableEq Group] in
/-- A thread holds the same locks when more is added. -/
theorem Extends.held
    {shared later : Shared Watcher Group Byte bufferLen}
    {pc : Pc Watcher Group Byte bufferLen}
    (kept : Extends shared later)
    (reads : Reads shared pc) :
    held later pc = held shared pc := by
  cases pc with
  | publishMark topic message w | publishWake topic message w
  | publishLeave topic message w =>
      simp only [WatchGroups.held, kept w reads]
  | _ => rfl

/-- Only the broadcast of a publication is followed by something else. -/
theorem statement_topic
    (shared : Shared Watcher Group Byte bufferLen)
    (topic : Topic)
    (pc : MessageTopic.Pc Byte (bufferLen topic)) :
    (∃ message, pc = .publishBroadcast message) ∨
      statement shared (.topic topic pc) =
        onTopic shared topic (MessageTopic.statement pc) := by
  cases pc with
  | publishBroadcast message => exact .inl ⟨message, rfl⟩
  | _ => exact .inr rfl

omit [DecidableEq Watcher] [DecidableEq Group] in
/-- Work on a topic changes the topics only. -/
theorem onTopic_eq_work
    {shared after : Shared Watcher Group Byte bufferLen}
    {topic : Topic}
    {inTopic :
      Monitor.Statement
        (MessageTopic.Topic Byte (bufferLen topic))
        (MessageTopic.Pc Byte (bufferLen topic))}
    {next : Pc Watcher Group Byte bufferLen}
    (here : onTopic shared topic inTopic = .work after next) :
    ∃ topics, after = { shared with topics := topics } := by
  cases inTopic with
  | work run =>
      cases here
      exact ⟨_, rfl⟩
  | own other =>
      cases here
      exact ⟨shared.topics, rfl⟩
  | _ => cases here

omit [DecidableEq Topic] [DecidableEq Watcher] [DecidableEq Group] in
/-- Watchers that are added with their groups keep the lists linked. -/
theorem Linked.extend
    {shared later : Shared Watcher Group Byte bufferLen}
    (linked : Linked shared)
    (kept : Extends shared later)
    (watchers :
      ∀ topic watcher,
        later.watchers topic = some watcher →
        shared.watchers topic = some watcher ∨ later.group watcher ≠ none)
    (next :
      ∀ watcher after,
        later.next watcher = some after →
        shared.next watcher = some after ∨ later.group after ≠ none) :
    Linked later where
  watchers topic watcher here :=
    (watchers topic watcher here).elim
      (fun before => by
        have grouped := linked.watchers topic watcher before
        rwa [kept watcher grouped])
      id
  next watcher after here :=
    (next watcher after here).elim
      (fun before => by
        have grouped := linked.next watcher after before
        rwa [kept after grouped])
      id

/-- The work of a statement keeps the lists well, and the groups. -/
theorem linked_of_work
    {shared after : Shared Watcher Group Byte bufferLen}
    {pc next : Pc Watcher Group Byte bufferLen}
    (linked : Linked shared)
    (reads : Reads shared pc)
    (keepsGroup :
      ∀ watcher group topic,
        pc = .watchGroup watcher group topic →
        shared.group watcher = none ∨ shared.group watcher = some group)
    (here : statement shared pc = .work after next) :
    Linked after ∧ Extends shared after := by
  cases pc with
  | topic topic pc =>
      rcases statement_topic shared topic pc with ⟨message, rfl⟩ | same
      · cases here
      · obtain ⟨topics, rfl⟩ := onTopic_eq_work (same.symm.trans here)
        exact ⟨⟨linked.watchers, linked.next⟩, fun _ _ => rfl⟩
  | publishFirst topic message | publishNext topic message w
  | waitRes group =>
      cases here
      exact ⟨linked, Extends.refl _⟩
  | publishAcquire topic message w =>
      cases w with
      | none =>
          cases here
          exact ⟨linked, Extends.refl _⟩
      | some w =>
          simp only [statement] at here
          cases grouped : shared.group w <;> simp [grouped] at here
  | publishMark topic message w =>
      simp only [statement] at here
      cases grouped : shared.group w with
      | none => exact (reads grouped).elim
      | some group =>
          simp only [grouped, Option.elim] at here
          cases here
          exact ⟨⟨linked.watchers, linked.next⟩, fun _ _ => rfl⟩
  | publishWake topic message w | publishLeave topic message w =>
      simp only [statement] at here
      cases grouped : shared.group w <;> simp [grouped] at here
  | watchGroup watcher group topic =>
      cases here
      have kept :
          Extends shared
            { shared with
              group := Function.update shared.group watcher (some group) } := by
        intro other grouped
        by_cases same : other = watcher
        · subst same
          rcases keepsGroup other group topic rfl with none | same
          · exact (grouped none).elim
          · simp [same]
        · simp [same]
      exact ⟨linked.extend kept (fun _ _ here => .inl here)
        (fun _ _ here => .inl here), kept⟩
  | watchNext watcher group topic =>
      cases here
      refine ⟨linked.extend (fun _ _ => rfl) (fun _ _ here => .inl here) ?_,
        fun _ _ => rfl⟩
      intro other after linkedTo
      simp only at linkedTo
      split at linkedTo
      · by_cases same : other = watcher
        · subst same
          rw [Function.update_self] at linkedTo
          exact .inr (linked.watchers topic after linkedTo)
        · rw [Function.update_of_ne same] at linkedTo
          exact .inl linkedTo
      · exact .inl linkedTo
  | watchFirst watcher group topic =>
      cases here
      refine ⟨linked.extend (fun _ _ => rfl) ?_ (fun _ _ here => .inl here),
        fun _ _ => rfl⟩
      intro other first linkedTo
      simp only at linkedTo
      by_cases same : other = topic
      · subst same
        rw [Function.update_self] at linkedTo
        cases linkedTo
        exact .inr reads
      · rw [Function.update_of_ne same] at linkedTo
        exact .inl linkedTo
  | _ => cases here

/-- A thread follows watchers of groups only. -/
theorem leads_reads
    {shared : Shared Watcher Group Byte bufferLen}
    {pc : Pc Watcher Group Byte bufferLen}
    (linked : Linked shared)
    (reads : Reads shared pc) :
    (statement shared pc).Leads Reads shared := by
  cases pc with
  | topic topic pc =>
      rcases statement_topic shared topic pc with ⟨message, rfl⟩ | same
      · trivial
      · rw [same]
        cases MessageTopic.statement pc <;> trivial
  | publishFirst topic message =>
      exact fun watcher here => linked.watchers topic watcher here
  | publishAcquire topic message w =>
      cases w with
      | none => trivial
      | some w =>
          simp only [statement]
          cases grouped : shared.group w with
          | none => trivial
          | some group => simp [Statement.Leads, Reads, grouped]
  | publishMark topic message w | publishWake topic message w
  | publishLeave topic message w =>
      simp only [statement]
      cases grouped : shared.group w with
      | none => trivial
      | some group => simp [Statement.Leads, Reads, grouped]
  | publishNext topic message w =>
      exact fun watcher here => linked.next w watcher here
  | watchGroup watcher group topic =>
      simp [statement, Statement.Leads, Reads]
  | watchNext watcher group topic => exact reads
  | _ => trivial

/-- A statement of a topic takes and gives back its lock only. -/
theorem sound_topic
    (shared : Shared Watcher Group Byte bufferLen)
    (topic : Topic)
    (pc : MessageTopic.Pc Byte (bufferLen topic)) :
    program.Sound before shared (.topic topic pc) := by
  unfold Program.Sound
  simp only [program]
  rcases statement_topic shared topic pc with ⟨message, rfl⟩ | same
  · rfl
  · rw [same]
    have coherent := MessageTopic.coherent pc
    cases here : MessageTopic.statement pc with
    | acquire next | release next | condWait next | broadcast next =>
        rw [here] at coherent
        simp [onTopic, held, coherent.1, coherent.2]
    | work run =>
        rw [here] at coherent
        have stays := coherent (shared.topics topic)
        simp [onTopic, held, stays]
    | own next =>
        rw [here] at coherent
        simp only [Monitor.Statement.Coherent] at coherent
        simp [onTopic, held, coherent]
    | idle =>
        rw [here] at coherent
        simp only [Monitor.Statement.Coherent] at coherent
        simp [onTopic, held, coherent]

theorem sound_of_reads
    {shared : Shared Watcher Group Byte bufferLen}
    {pc : Pc Watcher Group Byte bufferLen}
    (reads : Reads shared pc) :
    program.Sound before shared pc := by
  cases pc with
  | topic topic pc => exact sound_topic shared topic pc
  | publishAcquire topic message w =>
      cases w with
      | none => rfl
      | some w =>
          obtain ⟨group, grouped⟩ := Option.ne_none_iff_exists'.mp (reads w rfl)
          simp [Program.Sound, program, statement, held, grouped, before]
  | publishMark topic message w | publishWake topic message w
  | publishLeave topic message w =>
      obtain ⟨group, grouped⟩ := Option.ne_none_iff_exists'.mp reads
      simp [Program.Sound, program, statement, held, grouped]
  | _ => simp [Program.Sound, program, statement, held, before]

/-- A thread is in `messagebus_topic_wait` or `messagebus_watchgroup_wait`. -/
def AwaitsMessage :
    Lock Topic Group → Pc Watcher Group Byte bufferLen → Prop
  | .topic topic, .topic other (.waitCopy _ copied) =>
      other = topic ∧ copied = []
  | .group group, .waitRes other => other = group
  | _, _ => False

/-- A thread waits on a condition variable for messages only. -/
theorem awaitsMessage_of_condWait
    {shared : Shared Watcher Group Byte bufferLen}
    {pc after : Pc Watcher Group Byte bufferLen}
    {lock : Lock Topic Group}
    (here : statement shared pc = .condWait lock after) :
    AwaitsMessage lock after := by
  cases pc with
  | topic topic pc =>
      cases pc with
      | waitCond size =>
          cases here
          exact ⟨rfl, rfl⟩
      | publishTest buf =>
          simp only [statement, MessageTopic.statement] at here
          split at here <;> cases here
      | _ => cases here
  | publishAcquire topic message w =>
      cases w with
      | none => cases here
      | some w =>
          simp only [statement] at here
          cases grouped : shared.group w <;> simp [grouped] at here
  | publishMark topic message w | publishWake topic message w
  | publishLeave topic message w =>
      simp only [statement] at here
      cases grouped : shared.group w <;> simp [grouped] at here
  | waitCond group =>
      cases here
      rfl
  | _ => cases here

/-- The locks are with those who hold them, and the lists are well. -/
structure Ordered (state : System Id Watcher Group Byte bufferLen) : Prop where
  owned : Owned program state
  linked : Linked state.shared
  reads : ∀ id, Reads state.shared (state.threads id).pc
  awaits :
    ∀ id lock pc,
      (state.threads id).waits? = some (lock, pc) →
      AwaitsMessage lock pc

/-- In an ordered state each thread takes its locks upwards. -/
theorem Ordered.sound
    {state : System Id Watcher Group Byte bufferLen}
    (ordered : Ordered state)
    (id : Id)
    (pc : Pc Watcher Group Byte bufferLen)
    (running : state.threads id = .running pc) :
    program.Sound before state.shared pc := by
  have reads := ordered.reads id
  rw [running] at reads
  exact sound_of_reads reads

theorem ordered_boot
    (topics : (topic : Topic) → MessageTopic.Topic Byte (bufferLen topic)) :
    Ordered (boot (cleared topics) .outside :
      System Id Watcher Group Byte bufferLen) where
  owned := owned_boot rfl
  linked := {
    watchers _ _ impossible := by cases impossible
    next _ _ impossible := by cases impossible }
  reads _ := trivial
  awaits _ _ _ impossible := by cases impossible

variable [DecidableEq Id]

/-- The lists after a step. -/
theorem Ordered.linked_step
    {state next : System Id Watcher Group Byte bufferLen}
    {action : Action Id (Pc Watcher Group Byte bufferLen)}
    (ordered : Ordered state)
    (keeps : KeepsGroups state action)
    (taken : program.step? state action = some next) :
    Linked next.shared ∧ Extends state.shared next.shared := by
  rcases shared_of_step? taken with
    same | ⟨id, pc, after, rfl, running, here⟩
  · rw [same]
    exact ⟨ordered.linked, Extends.refl _⟩
  · have reads := ordered.reads id
    rw [running] at reads
    refine linked_of_work ordered.linked reads ?_ here
    rintro watcher group topic rfl
    exact keeps (watcher, group) (congrArg putsIn? running)

/-- Step lemma, as long as no watcher is put into a second group. -/
theorem ordered_step
    {state next : System Id Watcher Group Byte bufferLen}
    {action : Action Id (Pc Watcher Group Byte bufferLen)}
    (ordered : Ordered state)
    (keeps : KeepsGroups state action)
    (taken : program.step? state action = some next) :
    Ordered next := by
  obtain ⟨linked, kept⟩ := ordered.linked_step keeps taken
  refine ⟨?_, linked, ?_, ?_⟩
  · exact owned_step ordered.owned ordered.sound
      (fun id _ => kept.held (ordered.reads id)) taken
  · refine pcs_step ordered.reads ?_ ?_ (fun _ => kept.reads) taken
    · intro pc entry
      cases pc <;> trivial
    · intro pc running
      have reads := ordered.reads action.thread
      rw [running] at reads
      exact leads_reads ordered.linked reads
  · intro id lock pc waits
    rcases waits_of_step? taken waits with ⟨-, before⟩ | ⟨_, -, -, begins⟩
    · exact ordered.awaits id lock pc before
    · exact awaitsMessage_of_condWait begins

/-- A run that keeps the groups apart stays ordered. -/
theorem ordered_of_run
    {topics : (topic : Topic) → MessageTopic.Topic Byte (bufferLen topic)}
    {actions : List (Action Id (Pc Watcher Group Byte bufferLen))}
    {final : System Id Watcher Group Byte bufferLen}
    (keeps :
      Along program.step? KeepsGroups (boot (cleared topics) .outside) actions)
    (ran :
      run? program.step? (boot (cleared topics) .outside) actions =
        some final) :
    Ordered final :=
  run?_invariant_along ordered_step (ordered_boot topics) keeps ran

/--
No deadlock, in every interleaving of publications, reads, waits and watches
in which no watcher is put into a second group: no thread follows a pointer
that points nowhere, and when no thread can go on, no lock is held, and each
thread is in no call or sleeps until a message comes.
-/
theorem stuck_only_for_messages
    {topics : (topic : Topic) → MessageTopic.Topic Byte (bufferLen topic)}
    {actions : List (Action Id (Pc Watcher Group Byte bufferLen))}
    {final : System Id Watcher Group Byte bufferLen}
    (keeps :
      Along program.step? KeepsGroups (boot (cleared topics) .outside) actions)
    (ran :
      run? program.step? (boot (cleared topics) .outside) actions =
        some final) :
    (∀ id pc,
        final.threads id = .running pc → statement final.shared pc ≠ .fault) ∧
      ((∀ id, program.step? final (.step id) = none) →
        (∀ lock, final.owner lock = none) ∧
          ∀ id,
            (∃ pc,
                final.threads id = .running pc ∧
                  statement final.shared pc = .idle) ∨
              ∃ lock pc,
                final.threads id = .asleep lock pc ∧
                  AwaitsMessage lock pc) := by
  have ordered := ordered_of_run keeps ran
  refine ⟨fun id pc running faults => ?_, fun stuck =>
    ⟨ordered.owned.free_of_stuck before_ends ordered.sound stuck,
      fun id => ?_⟩⟩
  · have correct := ordered.sound id pc running
    simp only [Program.Sound, program, faults] at correct
  · refine
      (ordered.owned.rests_of_stuck before_ends ordered.sound stuck
        id).imp_right ?_
    rintro ⟨lock, pc, asleep⟩
    exact ⟨lock, pc, asleep, ordered.awaits id lock pc (by rw [asleep]; rfl)⟩

end

/-- Two topics of one byte that a group watches, and two threads. -/
abbrev TwoTopics := System Bool Bool Unit Nat (fun _ : Bool => 1)

/-- The actions of two threads on two topics with one group. -/
abbrev TwoTopicsAction := Action Bool (Pc Bool Unit Nat (fun _ : Bool => 1))

/-- Two topics with one byte each, and no watcher yet. -/
def twoTopics : TwoTopics :=
  boot (cleared fun _ => ⟨.replicate 1 0, false⟩) .outside

/-- A thread watches both topics and waits; the other publishes on both. -/
def bothPublished : List TwoTopicsAction :=
  .call true (.watchAcquire false () false) :: List.replicate 7 (.step true) ++
    .call true (.watchAcquire true () true) ::
      List.replicate 7 (.step true) ++
    .call true (.waitAcquire ()) :: List.replicate 2 (.step true) ++
    .call false (.topic false (.publishTest [7])) ::
      List.replicate 14 (.step false) ++
    .call false (.topic true (.publishTest [9])) ::
      List.replicate 14 (.step false) ++
    List.replicate 3 (.step true) ++
    .call true (.waitAcquire ()) :: List.replicate 2 (.step true)

/-- Both have been published on. -/
def publishedState : TwoTopics :=
  (run? program.step? twoTopics bothPublished).getD twoTopics

theorem stuck_only_for_messages_bothPublished :
    (∀ lock, publishedState.owner lock = none) ∧
      ∀ id,
        (∃ pc,
            publishedState.threads id = .running pc ∧
              statement publishedState.shared pc = .idle) ∨
          ∃ lock pc,
            publishedState.threads id = .asleep lock pc ∧
              AwaitsMessage lock pc :=
  (@stuck_only_for_messages Bool Bool Unit Nat Bool (fun _ => 1) _ _ _ _
    (fun _ => ⟨.replicate 1 0, false⟩) bothPublished publishedState (by decide)
    (run?_eq_some_getD rfl)).2 (fun id => by cases id <;> rfl)

end EPuckTavern.WatchGroups
