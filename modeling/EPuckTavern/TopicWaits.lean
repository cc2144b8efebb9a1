import EPuckTavern.TopicHistory

namespace EPuckTavern.MessageTopic

open Transition Transition.Monitor

/-!
# A wait returns what has been published since it began

The messages published so far, one written upon the other, are the buffer of
the topic, and a wait ends with a copy of it.  `messagebus_topic_wait` never
returns before a message has been published after its begin.
-/

variable {Id Byte : Type} {bufferLen : Nat}

/-- The messages published, oldest first. -/
def messagesOf
    (events : List (Id × Pc Byte bufferLen)) :
    List (Message Byte bufferLen) :=
  events.filterMap fun event =>
    match event.2 with
    | .publishRelease message => some message
    | _ => none

/-- A thread's wait, and what has been published since it began. -/
def WaitsSince
    (past : List (Id × Pc Byte bufferLen))
    (id : Id)
    (since : List (Id × Pc Byte bufferLen)) : Prop :=
  (∃ earlier size, past = earlier ++ (id, .waitCond size) :: since) ∧
    ∀ event ∈ since, event.1 ≠ id

@[simp] theorem messagesOf_append
    (earlier later : List (Id × Pc Byte bufferLen)) :
    messagesOf (earlier ++ later) = messagesOf earlier ++ messagesOf later :=
  List.filterMap_append

/-- The message of an event that publishes. -/
theorem messagesOf_singleton
    {event : Id × Pc Byte bufferLen}
    {message : Message Byte bufferLen}
    (published : event.2 = .publishRelease message) :
    messagesOf [event] = [message] := by
  simp [messagesOf, published]

/-- What the atomic topic remembers of the calls so far. -/
structure Remembers
    (buffer : Vector Byte bufferLen)
    (past : List (Id × Pc Byte bufferLen))
    (topic : AtomicTopic Id Byte bufferLen) : Prop where
  buffer : topic.buffer = (messagesOf past).foldl overlay buffer
  waiting :
    ∀ id,
      topic.waits id ≠ .no →
      ∃ since,
        WaitsSince past id since ∧
          (topic.waits id = .ended → messagesOf since ≠ [])

theorem remembers_fresh
    (buffer : Vector Byte bufferLen) :
    Remembers buffer []
      (AtomicTopic.fresh buffer : AtomicTopic Id Byte bufferLen) where
  buffer := rfl
  waiting _ waits := (waits rfl).elim

/-- An event of another thread does not end the wait. -/
theorem WaitsSince.snoc
    {past since : List (Id × Pc Byte bufferLen)}
    {id : Id}
    {event : Id × Pc Byte bufferLen}
    (waits : WaitsSince past id since)
    (other : event.1 ≠ id) :
    WaitsSince (past ++ [event]) id (since ++ [event]) := by
  obtain ⟨⟨earlier, size, rfl⟩, quiet⟩ := waits
  refine ⟨⟨earlier, size, by simp⟩, fun later member => ?_⟩
  rcases List.mem_append.mp member with member | member
  · exact quiet later member
  · rw [List.mem_singleton.mp member]
    exact other

/-- A wait goes on while another thread makes its calls. -/
theorem Remembers.goes_on
    {buffer : Vector Byte bufferLen}
    {past : List (Id × Pc Byte bufferLen)}
    {topic : AtomicTopic Id Byte bufferLen}
    {event : Id × Pc Byte bufferLen}
    {id : Id}
    (remembers : Remembers buffer past topic)
    (waits : topic.waits id ≠ .no)
    (other : event.1 ≠ id) :
    ∃ since,
      WaitsSince (past ++ [event]) id (since ++ [event]) ∧
        (topic.waits id = .ended → messagesOf since ≠ []) := by
  obtain ⟨since, began, heard⟩ := remembers.waiting id waits
  exact ⟨since, began.snoc other, heard⟩

variable [DecidableEq Id] [DecidableEq Byte]

/-- Each event is remembered in the buffer and by those that wait. -/
theorem remembers_step
    {buffer : Vector Byte bufferLen}
    {past : List (Id × Pc Byte bufferLen)}
    {topic next : AtomicTopic Id Byte bufferLen}
    {event : Id × Pc Byte bufferLen}
    (remembers : Remembers buffer past topic)
    (taken : AtomicTopic.step? topic event = some next) :
    Remembers buffer (past ++ [event]) next := by
  rcases AtomicTopic.step?_cases taken with
    ⟨message, published, noWait, rfl⟩ |
    ⟨size, result, read, noWait, -, rfl⟩ |
    ⟨size, begun, noWait, rfl⟩ |
    ⟨size, bytes, returned, ended, -, rfl⟩
  · refine ⟨?_, fun id waits => ?_⟩
    · simp [messagesOf_singleton published, remembers.buffer]
    · have waited : topic.waits id ≠ .no := fun none => by
        simp [none, Wait.publish] at waits
      have other : event.1 ≠ id := fun same => waited (same ▸ noWait)
      obtain ⟨since, began, -⟩ := remembers.goes_on waited other
      exact ⟨since ++ [event], began, fun _ => by
        simp [messagesOf_singleton published]⟩
  · have silent : messagesOf [event] = [] := by simp [messagesOf, read]
    refine ⟨by simp [silent, remembers.buffer], fun id waits => ?_⟩
    have other : event.1 ≠ id := fun same => waits (same ▸ noWait)
    obtain ⟨since, began, heard⟩ := remembers.goes_on waits other
    exact ⟨since ++ [event], began, by simpa [silent] using heard⟩
  · have silent : messagesOf [event] = [] := by simp [messagesOf, begun]
    refine ⟨by simp [silent, remembers.buffer], fun id waits => ?_⟩
    by_cases own : event.1 = id
    · subst own
      refine ⟨[], ⟨⟨past, size, by rw [← begun]⟩, by simp⟩, ?_⟩
      simp
    · simp only [Function.update_of_ne (Ne.symm own)] at waits ⊢
      obtain ⟨since, began, heard⟩ := remembers.goes_on waits own
      exact ⟨since ++ [event], began, by simpa [silent] using heard⟩
  · have silent : messagesOf [event] = [] := by simp [messagesOf, returned]
    refine ⟨by simp [silent, remembers.buffer], fun id waits => ?_⟩
    by_cases own : event.1 = id
    · subst own
      simp at waits
    · simp only [Function.update_of_ne (Ne.symm own)] at waits ⊢
      obtain ⟨since, began, heard⟩ := remembers.goes_on waits own
      exact ⟨since ++ [event], began, by simpa [silent] using heard⟩

/--
In every interleaving, `messagebus_topic_wait` returns only if a message has
been published since it began, and it returns the beginning of the buffer that
the messages published so far leave.
-/
theorem wait_returns_newer
    {buffer : Vector Byte bufferLen}
    {actions : List (Action Id (Pc Byte bufferLen))}
    {final : State Id (Topic Byte bufferLen) (Pc Byte bufferLen)}
    {earlier later : List (Id × Pc Byte bufferLen)}
    {id : Id}
    {size : Size bufferLen}
    {bytes : List Byte}
    (ran :
      run? program.step? (boot ⟨buffer, false⟩ .outside) actions =
        some final)
    (told :
      trace program.step? program.emit (boot ⟨buffer, false⟩ .outside)
          actions =
        earlier ++ (id, .waitRelease size bytes) :: later) :
    ∃ since,
      WaitsSince earlier id since ∧
        messagesOf since ≠ [] ∧
        bytes =
          ((messagesOf earlier).foldl overlay buffer).toList.take size := by
  obtain ⟨topic, accepted, -⟩ :=
    matches_run (exclusive_boot _ rfl) rfl (matches_fresh buffer) ran
  rw [told] at accepted
  obtain ⟨middle, before, after⟩ := run?_append_eq_some.mp accepted
  obtain ⟨next, taken, -⟩ := run?_cons_eq_some.mp after
  have remembers : Remembers buffer earlier middle :=
    run?_history remembers_step (remembers_fresh buffer) before
  rcases AtomicTopic.step?_cases taken with
    ⟨_, impossible, -⟩ | ⟨_, _, impossible, -⟩ | ⟨_, impossible, -⟩ |
    ⟨_, _, returned, ended, copied, -⟩
  · cases impossible
  · cases impossible
  · cases impossible
  · cases returned
    obtain ⟨since, began, heard⟩ :=
      remembers.waiting id (by simp [ended])
    exact ⟨since, began, heard ended, remembers.buffer ▸ copied⟩

/-- What the threads tell before the wait comes back. -/
def toldBefore : List (Nat × Pc Nat 3) :=
  [(0, .waitCond twoBytes),
    (1, .publishRelease ⟨[7, 8, 9], Nat.le_refl 3⟩),
    (2, .publishRelease ⟨[5], by decide⟩)]

/-- The two bytes are of two messages, one written upon the other. -/
theorem wait_returns_newer_overlapping :
    ∃ since : List (Nat × Pc Nat 3),
      WaitsSince toldBefore 0 since ∧
        messagesOf since ≠ [] ∧
        [5, 8] =
          ((messagesOf toldBefore).foldl overlay
            #v[0, 0, 0]).toList.take 2 :=
  @wait_returns_newer Nat Nat 3 _ _ #v[0, 0, 0] overlapping _ toldBefore
    [(3, .readRelease (Fin.last 3) (some [5, 8, 9]))] 0 twoBytes [5, 8]
    ran_overlapping
    (by with_unfolding_all rfl)

end EPuckTavern.MessageTopic
