import EPuckTavern.Transition.Ledger
import EPuckTavern.WatchGroupOrder

namespace EPuckTavern.WatchGroups

open Transition Transition.LockOrder

/-!
# A wait on a group returns the topic announced last

What `messagebus_watchgroup_wait` returns has been announced to its group since
the wait began, and nothing else has been announced to the group after it.
-/

variable {Topic Watcher Group Byte Id : Type} {bufferLen : Topic → Nat}

/-- What the watchers of a group can tell of it. -/
inductive Event (Topic Group : Type) where
  /-- A message on the topic is made known to the group. -/
  | announced (group : Group) (topic : Topic)
  | began (group : Group)
  | ended (group : Group) (res : Option Topic)

/-- What a thread is about to do for a group. -/
def tells?
    (shared : Shared Watcher Group Byte bufferLen) :
    Status (Lock Topic Group) (Pc Watcher Group Byte bufferLen) →
    Option (Event Topic Group)
  | .running (.publishMark topic _ w) =>
      (shared.group w).map (.announced · topic)
  | .running (.waitCond group) => some (.began group)
  | .running (.waitRelease group res) => some (.ended group res)
  | _ => none

/-- What a statement tells. -/
def emit
    (state : System Id Watcher Group Byte bufferLen) :
    Action Id (Pc Watcher Group Byte bufferLen) →
    List (Id × Event Topic Group)
  | .call _ _ => []
  | .step id =>
      ((tells? state.shared (state.threads id)).map (id, ·)).toList

/-- A thread's wait on a group, and what has happened since it began. -/
def WaitsSince
    (past : List (Id × Event Topic Group))
    (id : Id)
    (group : Group)
    (since : List (Id × Event Topic Group)) : Prop :=
  (∃ earlier, past = earlier ++ (id, .began group) :: since) ∧
    ∀ event ∈ since, event.1 ≠ id

theorem WaitsSince.append
    {past since emitted : List (Id × Event Topic Group)}
    {id : Id}
    {group : Group}
    (waits : WaitsSince past id group since)
    (others : ∀ event ∈ emitted, event.1 ≠ id) :
    WaitsSince (past ++ emitted) id group (since ++ emitted) := by
  obtain ⟨⟨earlier, rfl⟩, quiet⟩ := waits
  refine ⟨⟨earlier, by simp⟩, fun event member => ?_⟩
  rcases List.mem_append.mp member with member | member
  · exact quiet event member
  · exact others event member

section

variable [DecidableEq Group]

/-- The topics announced to a group, the last one last. -/
def announcedTo
    (group : Group)
    (events : List (Id × Event Topic Group)) : List Topic :=
  events.filterMap fun event =>
    match event.2 with
    | .announced other topic => if other = group then some topic else none
    | _ => none

@[simp] theorem announcedTo_append
    (group : Group)
    (earlier later : List (Id × Event Topic Group)) :
    announcedTo group (earlier ++ later) =
      announcedTo group earlier ++ announcedTo group later :=
  List.filterMap_append

/-- The result of a wait, by what has happened before it ends. -/
def Newest
    (past : List (Id × Event Topic Group))
    (id : Id)
    (group : Group)
    (res : Option Topic) : Prop :=
  ∃ since topic,
    WaitsSince past id group since ∧
      (announcedTo group since).getLast? = some topic ∧
      res = some topic

/-- A thread that waits on a group has been told of a topic. -/
def Told
    (past : List (Id × Event Topic Group))
    (id : Id)
    (group : Group) : Prop :=
  ∃ since, WaitsSince past id group since ∧ announcedTo group since ≠ []

/-- A publisher has announced its topic to the group, and not woken it yet. -/
def Waking
    (state : System Id Watcher Group Byte bufferLen)
    (group : Group) : Prop :=
  ∃ id topic message w,
    state.threads id = .running (.publishWake topic message w) ∧
      state.shared.group w = some group

/-- What the past tells of a thread that waits. -/
def Waiting
    (past : List (Id × Event Topic Group))
    (state : System Id Watcher Group Byte bufferLen)
    (id : Id) : Prop :=
  match state.threads id with
  | .asleep _ (.waitRes group) =>
      ∃ since,
        WaitsSince past id group since ∧
          (Waking state group → announcedTo group since ≠ [])
  | .woken _ (.waitRes group) | .running (.waitRes group) =>
      Told past id group
  | .running (.waitRelease group res) => Newest past id group res
  | _ => True

/-- The waits that have ended gave what was announced last. -/
def Truthful (past : List (Id × Event Topic Group)) : Prop :=
  ∀ earlier later id group res,
    past = earlier ++ (id, .ended group res) :: later →
    Newest earlier id group res

theorem Truthful.append
    {past emitted : List (Id × Event Topic Group)}
    (truthful : Truthful past)
    (single :
      ∀ event ∈ emitted,
        emitted = [event] ∧
          ∀ group res,
            event.2 = .ended group res →
            Newest past event.1 group res) :
    Truthful (past ++ emitted) := by
  cases emitted with
  | nil => simpa using truthful
  | cons event rest =>
      obtain ⟨alone, newest⟩ := single event List.mem_cons_self
      rw [alone]
      intro earlier later id group res split
      rcases List.eq_nil_or_concat later with rfl | ⟨shorter, last, rfl⟩
      · obtain ⟨rfl, same⟩ := List.append_inj' split rfl
        cases same
        exact newest group res rfl
      · rw [List.concat_eq_append, ← List.cons_append,
          ← List.append_assoc] at split
        obtain ⟨before, -⟩ := List.append_inj' split rfl
        exact truthful earlier shorter id group res before

variable [DecidableEq Topic] [DecidableEq Watcher]

/-- The group of a watcher is woken by `messagebus_topic_publish` only. -/
theorem waking_of_broadcast
    {shared : Shared Watcher Group Byte bufferLen}
    {pc after : Pc Watcher Group Byte bufferLen}
    {group : Group}
    (here : statement shared pc = .broadcast (.group group) after) :
    ∃ topic message w,
      pc = .publishWake topic message w ∧ shared.group w = some group := by
  cases pc with
  | topic topic pc =>
      rcases statement_topic shared topic pc with ⟨message, rfl⟩ | same
      · cases here
      · rw [same] at here
        cases is : MessageTopic.statement pc <;>
          simp [is, onTopic] at here
  | publishAcquire topic message w =>
      cases w with
      | none => cases here
      | some w =>
          simp only [statement] at here
          cases grouped : shared.group w <;> simp [grouped] at here
  | publishMark topic message w | publishLeave topic message w =>
      simp only [statement] at here
      cases grouped : shared.group w <;> simp [grouped] at here
  | publishWake topic message w =>
      simp only [statement] at here
      cases grouped : shared.group w with
      | none => simp [grouped] at here
      | some other =>
          simp only [grouped, Option.elim, Statement.broadcast.injEq,
            Lock.group.injEq] at here
          exact ⟨topic, message, w, rfl, by rw [grouped, here.1]⟩
  | _ => cases here

/-- Where a thread comes from that deals with a group. -/
def ComesFrom
    (shared : Shared Watcher Group Byte bufferLen)
    (pc : Pc Watcher Group Byte bufferLen) :
    Pc Watcher Group Byte bufferLen → Prop
  | .publishWake topic message w => pc = .publishMark topic message w
  | .waitRes group => pc = .waitCond group
  | .waitRelease group res =>
      pc = .waitRes group ∧ res = shared.publishedTopic group
  | _ => True

/-- A statement goes on to points only that come from it. -/
theorem leads_comesFrom
    (shared : Shared Watcher Group Byte bufferLen)
    (pc : Pc Watcher Group Byte bufferLen) :
    (statement shared pc).Leads
      (fun _ next => ComesFrom shared pc next) shared := by
  cases pc with
  | topic topic pc =>
      rcases statement_topic shared topic pc with ⟨message, rfl⟩ | same
      · trivial
      · rw [same]
        cases MessageTopic.statement pc <;> trivial
  | publishAcquire topic message w =>
      cases w with
      | none => trivial
      | some w =>
          simp only [statement]
          cases shared.group w <;> trivial
  | publishMark topic message w | publishWake topic message w
  | publishLeave topic message w =>
      simp only [statement]
      cases shared.group w <;> trivial
  | waitCond group => rfl
  | waitRes group => exact ⟨rfl, rfl⟩
  | _ => trivial

/-- Only `messagebus_topic_publish` changes the topic of a group. -/
theorem announces_or
    (shared : Shared Watcher Group Byte bufferLen)
    (pc : Pc Watcher Group Byte bufferLen) :
    (∃ topic message w group,
        pc = .publishMark topic message w ∧ shared.group w = some group) ∨
      (∀ group topic,
          tells? shared (.running pc) ≠ some (.announced group topic)) ∧
        (statement shared pc).Leads
          (fun after _ => after.publishedTopic = shared.publishedTopic)
          shared := by
  cases pc with
  | topic topic pc =>
      refine .inr ⟨by simp [tells?], ?_⟩
      rcases statement_topic shared topic pc with ⟨message, rfl⟩ | same
      · rfl
      · rw [same]
        cases MessageTopic.statement pc <;> trivial
  | publishMark topic message w =>
      cases grouped : shared.group w with
      | none =>
          exact .inr (by simp [tells?, statement, grouped, Statement.Leads])
      | some group => exact .inl ⟨topic, message, w, group, rfl, grouped⟩
  | publishAcquire topic message w =>
      refine .inr ⟨by simp [tells?], ?_⟩
      cases w with
      | none => rfl
      | some w =>
          simp only [statement]
          cases shared.group w <;> trivial
  | publishWake topic message w | publishLeave topic message w =>
      refine .inr ⟨by simp [tells?], ?_⟩
      simp only [statement]
      cases shared.group w <;> trivial
  | _ => exact .inr ⟨by simp [tells?], by trivial⟩

omit [DecidableEq Group] [DecidableEq Topic] [DecidableEq Watcher] in
/-- A thread tells of its own doings. -/
theorem thread_of_mem_emit
    {state : System Id Watcher Group Byte bufferLen}
    {action : Action Id (Pc Watcher Group Byte bufferLen)}
    {event : Id × Event Topic Group}
    (member : event ∈ emit state action) :
    event.1 = action.thread := by
  cases action with
  | call id pc => cases member
  | step id =>
      simp only [emit, Option.mem_toList, Option.map_eq_some_iff] at member
      obtain ⟨told, -, rfl⟩ := member
      rfl

/-- Who acts for a group has its lock. -/
theorem Ordered.same_of_group
    {state : System Id Watcher Group Byte bufferLen}
    {first second : Id}
    {firstPc secondPc : Pc Watcher Group Byte bufferLen}
    {group : Group}
    (ordered : Ordered state)
    (firstRuns : state.threads first = .running firstPc)
    (secondRuns : state.threads second = .running secondPc)
    (firstHolds : .group group ∈ held state.shared firstPc)
    (secondHolds : .group group ∈ held state.shared secondPc) :
    first = second := by
  have firstOwns :=
    (ordered.owned.owner (.group group) first).mpr (by
      rw [firstRuns]
      exact firstHolds)
  have secondOwns :=
    (ordered.owned.owner (.group group) second).mpr (by
      rw [secondRuns]
      exact secondHolds)
  exact Option.some.inj (firstOwns.symm.trans secondOwns)

omit [DecidableEq Group] [DecidableEq Topic] [DecidableEq Watcher] in
/-- A group is told by the statement that marks it. -/
theorem tells?_eq_announced
    {shared : Shared Watcher Group Byte bufferLen}
    {status : Status (Lock Topic Group) (Pc Watcher Group Byte bufferLen)}
    {group : Group}
    {topic : Topic}
    (told : tells? shared status = some (.announced group topic)) :
    ∃ message w,
      status = .running (.publishMark topic message w) ∧
        shared.group w = some group := by
  unfold tells? at told
  split at told
  · rename_i here message w
    obtain ⟨other, grouped, same⟩ := Option.map_eq_some_iff.mp told
    cases same
    exact ⟨message, w, rfl, grouped⟩
  · cases told
  · cases told
  · cases told

omit [DecidableEq Topic] [DecidableEq Watcher] in
theorem announcedTo_emit_eq_nil
    {state : System Id Watcher Group Byte bufferLen}
    {id : Id}
    {group : Group}
    (silent :
      ∀ topic,
        tells? state.shared (state.threads id) ≠
          some (.announced group topic)) :
    announcedTo group (emit state (.step id)) = [] := by
  simp only [emit]
  cases told : tells? state.shared (state.threads id) with
  | none => rfl
  | some event =>
      cases event with
      | announced other topic =>
          have different : other ≠ group := by
            rintro rfl
            exact silent topic told
          simp [announcedTo, different]
      | began other | ended other res => rfl

/-- While a thread has the lock of a group, no other announces to it. -/
theorem Ordered.silent_of_holds
    {state : System Id Watcher Group Byte bufferLen}
    {action : Action Id (Pc Watcher Group Byte bufferLen)}
    {id : Id}
    {pc : Pc Watcher Group Byte bufferLen}
    {group : Group}
    (ordered : Ordered state)
    (running : state.threads id = .running pc)
    (holds : .group group ∈ held state.shared pc)
    (other : id ≠ action.thread) :
    announcedTo group (emit state action) = [] := by
  cases action with
  | call actor begun => rfl
  | step actor =>
      refine announcedTo_emit_eq_nil fun topic told => ?_
      obtain ⟨message, w, marks, grouped⟩ := tells?_eq_announced told
      exact other
        (ordered.same_of_group running marks holds (by simp [held, grouped]))

/-- The lock of a group that a thread waits on is the one it waits with. -/
theorem Ordered.lock_of_waitRes
    {state : System Id Watcher Group Byte bufferLen}
    {id : Id}
    {lock : Lock Topic Group}
    {group : Group}
    (ordered : Ordered state)
    (asleep : state.threads id = .asleep lock (.waitRes group)) :
    lock = .group group := by
  have awaits := ordered.awaits id lock _ (by rw [asleep]; rfl)
  cases lock with
  | topic topic => exact awaits.elim
  | group other => exact congrArg Lock.group (Eq.symm awaits)

omit [DecidableEq Topic] [DecidableEq Watcher] in
theorem Told.append
    {past emitted : List (Id × Event Topic Group)}
    {id : Id}
    {group : Group}
    (told : Told past id group)
    (others : ∀ event ∈ emitted, event.1 ≠ id) :
    Told (past ++ emitted) id group := by
  obtain ⟨since, waits, heard⟩ := told
  exact ⟨since ++ emitted, waits.append others, by simp [heard]⟩

variable [DecidableEq Id]

/-- A publisher begins to wake a group by announcing its topic to it. -/
theorem waking_step
    {state next : System Id Watcher Group Byte bufferLen}
    {action : Action Id (Pc Watcher Group Byte bufferLen)}
    {group : Group}
    (ordered : Ordered state)
    (keeps : KeepsGroups state action)
    (taken : program.step? state action = some next)
    (waking : Waking next group) :
    Waking state group ∨ announcedTo group (emit state action) ≠ [] := by
  obtain ⟨id, topic, message, w, running, grouped⟩ := waking
  have kept := (ordered.linked_step keeps taken).2
  have reads := ordered.reads id
  by_cases own : id = action.thread
  · subst own
    rcases comes_of_running (leads_comesFrom state.shared) taken running with
      entry | ⟨lock, woken⟩ | ⟨actor, here, rfl, before, comes⟩
    · cases entry
    · have awaits := ordered.awaits _ lock _ (by rw [woken]; rfl)
      cases lock <;> exact awaits.elim
    · cases comes
      simp only [Action.thread, before] at reads
      rw [kept w reads] at grouped
      right
      simp [emit, before, tells?, grouped, announcedTo]
  · left
    refine ⟨id, topic, message, w, ?_, ?_⟩
    · rcases threads_of_other taken own with same | ⟨_, lock, _, -, -, woken⟩
      · exact same.symm.trans running
      · exact Status.wake_eq_running.mp (woken.symm.trans running)
    · rw [← pc_of_other taken own, running] at reads
      rwa [kept w reads] at grouped

/-- What is announced last is the topic that the group then has. -/
theorem published_step
    {past : List (Id × Event Topic Group)}
    {state next : System Id Watcher Group Byte bufferLen}
    {action : Action Id (Pc Watcher Group Byte bufferLen)}
    (published :
      ∀ group,
        state.shared.publishedTopic group =
          (announcedTo group past).getLast?)
    (taken : program.step? state action = some next)
    (group : Group) :
    next.shared.publishedTopic group =
      (announcedTo group (past ++ emit state action)).getLast? := by
  cases action with
  | call id pc =>
      cases move_of_step? taken
      simpa [emit] using published group
  | step id =>
      cases thread : state.threads id with
      | asleep lock pc =>
          simp only [Program.step?, thread] at taken
          cases taken
      | woken lock pc =>
          rw [announcedTo_append,
            announcedTo_emit_eq_nil (by simp [thread, tells?])]
          simp only [Program.step?, thread] at taken
          split at taken
          · cases taken
            simpa using published group
          · cases taken
      | running pc =>
          rcases announces_or state.shared pc with
            ⟨topic, message, w, other, rfl, grouped⟩ | ⟨silent, leads⟩
          · simp only [Program.step?, thread, program, statement, grouped,
              Option.elim] at taken
            cases taken
            by_cases same : other = group
            · subst same
              simp [emit, thread, tells?, grouped, announcedTo]
            · simpa [emit, thread, tells?, grouped, announcedTo, same,
                Function.update_of_ne (Ne.symm same)] using published group
          · have kept := leads_of_step? taken thread leads
            rw [announcedTo_append,
              announcedTo_emit_eq_nil (by rw [thread]; exact silent group),
              kept]
            simpa using published group

/-- The wait of a thread while another one acts. -/
theorem waiting_of_other
    {past : List (Id × Event Topic Group)}
    {state next : System Id Watcher Group Byte bufferLen}
    {action : Action Id (Pc Watcher Group Byte bufferLen)}
    {id : Id}
    (ordered : Ordered state)
    (keeps : KeepsGroups state action)
    (waiting : Waiting past state id)
    (taken : program.step? state action = some next)
    (other : id ≠ action.thread) :
    Waiting (past ++ emit state action) next id := by
  have others :
      ∀ event ∈ emit state action, event.1 ≠ id := by
    intro event member same
    exact other (same.symm.trans (thread_of_mem_emit member))
  have stays
      (same : next.threads id = state.threads id) :
      Waiting (past ++ emit state action) next id := by
    unfold Waiting at waiting ⊢
    rw [same]
    split at waiting
    · obtain ⟨since, waits, heard⟩ := waiting
      refine ⟨since ++ emit state action, waits.append others, ?_⟩
      intro waking
      rw [announcedTo_append]
      rcases waking_step ordered keeps taken waking with before | now
      · exact List.append_ne_nil_of_left_ne_nil (heard before) _
      · exact List.append_ne_nil_of_right_ne_nil _ now
    · exact waiting.append others
    · exact waiting.append others
    · rename_i group res running
      obtain ⟨since, topic, waits, last, rfl⟩ := waiting
      refine ⟨since ++ emit state action, topic, waits.append others, ?_, rfl⟩
      have silent : announcedTo group (emit state action) = [] :=
        ordered.silent_of_holds running (List.mem_singleton.mpr rfl) other
      simpa [silent] using last
    · trivial
  rcases threads_of_other taken other with same |
    ⟨pc, lock, after, running, here, woken⟩
  · exact stays same
  · cases thread : state.threads id with
    | running other | woken place other =>
        exact stays (by rw [woken, thread]; rfl)
    | asleep place goesOn =>
        by_cases same : place = lock
        · subst same
          have now : next.threads id = .woken place goesOn := by
            rw [woken, thread]
            simp [Status.wake]
          unfold Waiting at waiting ⊢
          rw [thread] at waiting
          rw [now]
          cases goesOn with
          | waitRes group =>
              cases ordered.lock_of_waitRes thread
              obtain ⟨topic, message, w, rfl, grouped⟩ :=
                waking_of_broadcast here
              obtain ⟨since, waits, heard⟩ := waiting
              have told : Told past id group :=
                ⟨since, waits,
                  heard ⟨_, topic, message, w, running, grouped⟩⟩
              exact told.append others
          | _ => trivial
        · exact stays (by rw [woken, thread]; simp [Status.wake, same])

/-- The wait of the thread that acts. -/
theorem waiting_of_own
    {past : List (Id × Event Topic Group)}
    {state next : System Id Watcher Group Byte bufferLen}
    {action : Action Id (Pc Watcher Group Byte bufferLen)}
    (ordered : Ordered state)
    (keeps : KeepsGroups state action)
    (published :
      ∀ group,
        state.shared.publishedTopic group =
          (announcedTo group past).getLast?)
    (waiting : Waiting past state action.thread)
    (taken : program.step? state action = some next) :
    Waiting (past ++ emit state action) next action.thread := by
  have unsaid
      {lock : Lock Topic Group}
      {pc : Pc Watcher Group Byte bufferLen}
      (waits : state.threads action.thread = .woken lock pc) :
      emit state action = [] := by
    cases action with
    | call id begun => rfl
    | step id =>
        simp only [Action.thread] at waits
        simp [emit, waits, tells?]
  unfold Waiting
  split
  · rename_i lock group asleep
    rcases waits_of_step? taken (by rw [asleep]; rfl) with
      ⟨other, -⟩ | ⟨here, isStep, running, begins⟩
    · exact (other rfl).elim
    · have comes := leads_comesFrom state.shared here
      change statement _ _ = _ at begins
      rw [begins] at comes
      cases comes
      have told : emit state action = [(action.thread, .began group)] := by
        cases action with
        | call id begun => cases isStep
        | step id =>
            simp only [Action.thread] at running
            simp [emit, running, tells?, Action.thread]
      refine ⟨[], ⟨⟨past, by rw [told]⟩, by simp⟩, fun waking => ?_⟩
      rcases waking_step ordered keeps taken waking with
        ⟨other, topic, message, w, wakes, grouped⟩ | announced
      · have same := ordered.same_of_group wakes running
          (by simp [held, grouped]) (List.mem_singleton.mpr rfl)
        rw [same] at wakes
        cases wakes.symm.trans running
      · simp [told, announcedTo] at announced
  · rename_i lock group woken
    rcases waits_of_step? taken (by rw [woken]; rfl) with
      ⟨other, -⟩ | ⟨here, isStep, running, begins⟩
    · exact (other rfl).elim
    · rw [isStep] at taken
      simp only [Program.step?, running, begins] at taken
      cases taken
      simp at woken
  · rename_i group running
    rcases comes_of_running (leads_comesFrom state.shared) taken running with
      entry | ⟨lock, woken⟩ | ⟨actor, here, rfl, before, comes⟩
    · cases entry
    · unfold Waiting at waiting
      rw [woken] at waiting
      simpa [unsaid woken] using waiting
    · cases comes
      simp only [Program.step?, before, program, statement] at taken
      cases taken
      simp [Action.thread] at running
  · rename_i group res running
    rcases comes_of_running (leads_comesFrom state.shared) taken running with
      entry | ⟨lock, woken⟩ | ⟨actor, here, rfl, before, comes⟩
    · cases entry
    · have awaits := ordered.awaits _ lock _ (by rw [woken]; rfl)
      cases lock <;> exact awaits.elim
    · obtain ⟨rfl, rfl⟩ := comes
      unfold Waiting at waiting
      simp only [Action.thread, before] at waiting
      obtain ⟨since, waits, heard⟩ := waiting
      obtain ⟨⟨earlier, rfl⟩, quiet⟩ := waits
      have silent : emit state (.step actor) = [] := by
        simp [emit, before, tells?]
      rw [silent, List.append_nil]
      refine ⟨since, (announcedTo group since).getLast heard,
        ⟨⟨earlier, rfl⟩, quiet⟩, List.getLast?_eq_some_getLast heard, ?_⟩
      rw [published, announcedTo_append, List.getLast?_append]
      change (announcedTo group since).getLast?.or _ = _
      rw [List.getLast?_eq_some_getLast heard]
      rfl
  · trivial

/-- What the past tells of a state. -/
structure Remembers
    (past : List (Id × Event Topic Group))
    (state : System Id Watcher Group Byte bufferLen) : Prop where
  ordered : Ordered state
  published :
    ∀ group,
      state.shared.publishedTopic group = (announcedTo group past).getLast?
  waiting : ∀ id, Waiting past state id
  truthful : Truthful past

omit [DecidableEq Id] in
theorem remembers_boot
    (topics : (topic : Topic) → MessageTopic.Topic Byte (bufferLen topic)) :
    Remembers []
      (boot (cleared topics) .outside :
        System Id Watcher Group Byte bufferLen) where
  ordered := ordered_boot topics
  published _ := rfl
  waiting _ := trivial
  truthful _ _ _ _ _ impossible := by simp at impossible

omit [DecidableEq Topic] [DecidableEq Watcher] [DecidableEq Id] in
/-- A thread ends its wait with what the past says. -/
theorem newest_of_ended
    {past : List (Id × Event Topic Group)}
    {state : System Id Watcher Group Byte bufferLen}
    {action : Action Id (Pc Watcher Group Byte bufferLen)}
    {event : Id × Event Topic Group}
    {group : Group}
    {res : Option Topic}
    (waiting : ∀ id, Waiting past state id)
    (member : event ∈ emit state action)
    (ended : event.2 = .ended group res) :
    Newest past event.1 group res := by
  cases action with
  | call id pc => cases member
  | step id =>
      simp only [emit, Option.mem_toList, Option.map_eq_some_iff] at member
      obtain ⟨told, tells, rfl⟩ := member
      cases ended
      have waits := waiting id
      unfold Waiting at waits
      unfold tells? at tells
      split at tells
      · obtain ⟨_, -, impossible⟩ := Option.map_eq_some_iff.mp tells
        cases impossible
      · cases tells
      · rename_i other result running
        cases tells
        simpa only [running] using waits
      · cases tells

/-- Step lemma, as long as no watcher is put into a second group. -/
theorem remembers_step
    {past : List (Id × Event Topic Group)}
    {state next : System Id Watcher Group Byte bufferLen}
    {action : Action Id (Pc Watcher Group Byte bufferLen)}
    (remembers : Remembers past state)
    (keeps : KeepsGroups state action)
    (taken : program.step? state action = some next) :
    Remembers (past ++ emit state action) next where
  ordered := ordered_step remembers.ordered keeps taken
  published := published_step remembers.published taken
  waiting id := by
    by_cases own : id = action.thread
    · subst own
      exact waiting_of_own remembers.ordered keeps remembers.published
        (remembers.waiting action.thread) taken
    · exact waiting_of_other remembers.ordered keeps (remembers.waiting id)
        taken own
  truthful := by
    refine remembers.truthful.append fun event member => ⟨?_, ?_⟩
    · cases action with
      | call id pc => cases member
      | step id =>
          simp only [emit, Option.mem_toList] at member ⊢
          rw [member]
          rfl
    · exact fun group res ended =>
        newest_of_ended remembers.waiting member ended

/--
In every interleaving in which no watcher is put into a second group, a wait on
a group returns a topic: the one announced last to the group, since the wait
began.
-/
theorem group_wait_returns_newest
    {topics : (topic : Topic) → MessageTopic.Topic Byte (bufferLen topic)}
    {actions : List (Action Id (Pc Watcher Group Byte bufferLen))}
    {final : System Id Watcher Group Byte bufferLen}
    {earlier later : List (Id × Event Topic Group)}
    {id : Id}
    {group : Group}
    {res : Option Topic}
    (keeps :
      Along program.step? KeepsGroups (boot (cleared topics) .outside) actions)
    (ran :
      run? program.step? (boot (cleared topics) .outside) actions =
        some final)
    (told :
      trace program.step? emit (boot (cleared topics) .outside) actions =
        earlier ++ (id, .ended group res) :: later) :
    ∃ since topic,
      WaitsSince earlier id group since ∧
        (announcedTo group since).getLast? = some topic ∧
        res = some topic :=
  (trace_history remembers_step (remembers_boot topics) keeps ran).truthful
    earlier later id group res told

theorem group_wait_returns_newest_bothPublished :
    ∃ since topic,
      WaitsSince
          [((true : Bool), (.began () : Event Bool Unit)),
            (false, .announced () false), (false, .announced () true)]
          true () since ∧
        (announcedTo () since).getLast? = some topic ∧
        some true = some topic :=
  @group_wait_returns_newest Bool Bool Unit Nat Bool (fun _ => 1) _ _ _ _
    (fun _ => ⟨.replicate 1 0, false⟩) bothPublished publishedState _
    [(true, .began ())] true () (some true) (by decide)
    (run?_eq_some_getD rfl) rfl

end

end EPuckTavern.WatchGroups
