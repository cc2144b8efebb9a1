import EPuckTavern.MessageTopic

namespace EPuckTavern.MessageTopic

open Transition Transition.Monitor

/-!
# What the users of a topic see

`AtomicTopic` is a topic on which each call, or each half of a wait, happens
at once.  In every interleaving of the byte copies of any number of threads,
the calls give the results that they give on the atomic topic in the order in
which they leave the lock.
-/

variable {Byte : Type} {bufferLen : Nat}

/-- The buffer with the bytes of a message from `index` on. -/
def overlayFrom
    (message : Message Byte bufferLen)
    (index : Nat)
    (buffer : Vector Byte bufferLen) : Vector Byte bufferLen :=
  Vector.ofFn fun place =>
    if inMessage : index ≤ place ∧ place < message.bytes.length then
      message.bytes[place]
    else
      buffer[place]

/-- The buffer that a publication leaves. -/
def overlay
    (buffer : Vector Byte bufferLen)
    (message : Message Byte bufferLen) : Vector Byte bufferLen :=
  overlayFrom message 0 buffer

/-- A byte is left to be copied into the buffer. -/
theorem overlayFrom_of_more
    {message : Message Byte bufferLen}
    {index : Nat}
    (more : index < message.bytes.length)
    (buffer : Vector Byte bufferLen) :
    overlayFrom message index buffer =
      overlayFrom message (index + 1)
        (buffer.set index message.bytes[index]
          (Nat.lt_of_lt_of_le more message.fits)) := by
  ext place below
  simp only [overlayFrom, Vector.getElem_ofFn, Fin.getElem_fin,
    Vector.getElem_set]
  by_cases same : index = place
  · subst same
    simp [more]
  · by_cases later : index ≤ place
    · have after : index + 1 ≤ place := by omega
      simp [later, after, same]
    · have before : ¬ index + 1 ≤ place := by omega
      simp [later, before, same]

/-- All bytes have been copied into the buffer. -/
theorem overlayFrom_of_end
    {message : Message Byte bufferLen}
    {index : Nat}
    (atEnd : message.bytes.length ≤ index)
    (buffer : Vector Byte bufferLen) :
    overlayFrom message index buffer = buffer := by
  ext place below
  have outside : ¬ (index ≤ place ∧ place < message.bytes.length) := by omega
  simp [overlayFrom, outside]

/-- The bytes copied so far and those that are still to be copied. -/
def Topic.copiedAtEnd
    (topic : Topic Byte bufferLen)
    (size : Size bufferLen)
    (copied : List Byte) : List Byte :=
  copied ++ (topic.buffer.toList.take size).drop copied.length

/-- A byte is left to be copied out of the buffer. -/
theorem Topic.copiedAtEnd_of_some
    {topic : Topic Byte bufferLen}
    {size : Size bufferLen}
    {copied : List Byte}
    {byte : Byte}
    (more : topic.copyOut size copied = some byte) :
    topic.copiedAtEnd size copied =
      topic.copiedAtEnd size (copied ++ [byte]) := by
  unfold copyOut at more
  split at more
  · rename_i shorter
    cases more
    have inTake :
        copied.length < (topic.buffer.toList.take size).length := by
      have bound := size.isLt
      simp only [List.length_take, Vector.length_toList]
      omega
    rw [copiedAtEnd, copiedAtEnd, List.drop_eq_getElem_cons inTake]
    simp
  · cases more

/-- All bytes have been copied out of the buffer. -/
theorem Topic.copiedAtEnd_of_none
    {topic : Topic Byte bufferLen}
    {size : Size bufferLen}
    {copied : List Byte}
    (atEnd : topic.copyOut size copied = none) :
    topic.copiedAtEnd size copied = copied := by
  unfold copyOut at atEnd
  split at atEnd
  · cases atEnd
  · rename_i enough
    have nothingLeft :
        (topic.buffer.toList.take size).drop copied.length = [] := by
      rw [List.drop_eq_nil_iff, List.length_take]
      omega
    rw [copiedAtEnd, nothingLeft, List.append_nil]

/-- What is left of the section from each control point inside it. -/
def finish :
    Pc Byte bufferLen →
    Topic Byte bufferLen →
    Outcome (Topic Byte bufferLen) (Pc Byte bufferLen)
  | .publishCopy message index, topic =>
      ⟨⟨overlayFrom message index topic.buffer, true⟩,
        .publishRelease message, true⟩
  | .publishFlag message, topic =>
      ⟨{ topic with published := true }, .publishRelease message, true⟩
  | .publishBroadcast message, topic =>
      ⟨topic, .publishRelease message, true⟩
  | .readTest size, topic =>
      ⟨topic,
        .readRelease size
          (if topic.published then some (topic.copiedAtEnd size [])
          else none),
        false⟩
  | .readCopy size copied, topic =>
      ⟨topic, .readRelease size (some (topic.copiedAtEnd size copied)),
        false⟩
  | .waitCopy size copied, topic =>
      ⟨topic, .waitRelease size (topic.copiedAtEnd size copied), false⟩
  | pc, topic => ⟨topic, pc, false⟩

theorem finishes
    (pc : Pc Byte bufferLen)
    (topic : Topic Byte bufferLen)
    (_ : inside pc = true) :
    (statement pc).Finishes finish pc topic := by
  cases pc with
  | publishCopy message index =>
      simp only [statement, Statement.Finishes, Topic.copyIn]
      split
      · rename_i more
        simp only [finish, overlayFrom_of_more more]
      · rename_i atEnd
        simp only [finish, overlayFrom_of_end (Nat.not_lt.mp atEnd)]
  | readTest size =>
      simp only [statement, Statement.Finishes]
      split
      · rename_i published
        simp [finish, published]
      · rename_i unpublished
        simp [finish, unpublished]
  | readCopy size copied | waitCopy size copied =>
      simp only [statement, Statement.Finishes]
      split
      · rename_i byte more
        simp only [finish, Topic.copiedAtEnd_of_some more]
      · rename_i atEnd
        simp only [finish, Topic.copiedAtEnd_of_none atEnd]
  | publishTest buf =>
      rename_i impossible
      cases impossible
  | _ => first | rfl | trivial

/-- Publish, read and wait as sections. -/
def sections :
    Sections
      (program : Program (Topic Byte bufferLen) (Pc Byte bufferLen)) where
  finish := finish
  guarded pc _ works := by
    cases pc with
    | publishTest buf =>
        simp only [program, statement] at works
        split at works <;> cases works
    | _ => first | rfl | cases works
  finishes := finishes

/-- Where a thread stands in `messagebus_topic_wait`. -/
inductive Wait where
  | no
  /-- Nothing has been published since. -/
  | forMessage
  | ended
  deriving Repr, DecidableEq

/-- A topic whose calls happen at once. -/
structure AtomicTopic (Id Byte : Type) (bufferLen : Nat) where
  buffer : Vector Byte bufferLen
  published : Bool
  waits : Id → Wait

variable {Id : Type} [DecidableEq Id]

/-- A publication ends all waits. -/
def Wait.publish : Wait → Wait
  | .no => .no
  | .forMessage | .ended => .ended

namespace AtomicTopic

/-- Nobody has published, and nobody waits. -/
def fresh
    (buffer : Vector Byte bufferLen) : AtomicTopic Id Byte bufferLen where
  buffer := buffer
  published := false
  waits _ := .no

/-- The last message, cut to size, once there is one. -/
def read?
    (topic : AtomicTopic Id Byte bufferLen)
    (size : Size bufferLen) : Option (List Byte) :=
  if topic.published then
    some (topic.buffer.toList.take size)
  else
    none

/-- The calls, by the statements that leave the lock. -/
def step?
    [DecidableEq Byte] :
    Step (AtomicTopic Id Byte bufferLen) (Id × Pc Byte bufferLen)
  | topic, (id, .publishRelease message) =>
      if topic.waits id = .no then
        some
          { buffer := overlay topic.buffer message
            published := true
            waits := Wait.publish ∘ topic.waits }
      else
        none
  | topic, (id, .readRelease size result) =>
      if topic.waits id = .no ∧ result = topic.read? size then
        some topic
      else
        none
  | topic, (id, .waitCond _) =>
      if topic.waits id = .no then
        some { topic with
          waits := Function.update topic.waits id .forMessage }
      else
        none
  | topic, (id, .waitRelease size bytes) =>
      if topic.waits id = .ended ∧ bytes = topic.buffer.toList.take size then
        some { topic with waits := Function.update topic.waits id .no }
      else
        none
  | _, _ => none

end AtomicTopic

/-- The wait that a thread of the monitor is in. -/
def waitOf : Status (Pc Byte bufferLen) → Wait
  | .running _ => .no
  | .asleep _ => .forMessage
  | .woken _ => .ended

/-- The atomic topic stands where the monitor stands between two sections. -/
structure Matches
    (settled : Settled Id (Topic Byte bufferLen) (Pc Byte bufferLen))
    (topic : AtomicTopic Id Byte bufferLen) : Prop where
  buffer : settled.shared.buffer = topic.buffer
  published : settled.shared.published = topic.published
  waits : ∀ id, topic.waits id = waitOf (settled.threads id)
  /-- A thread that waits goes on with the copy. -/
  copies :
    ∀ id pc,
      settled.threads id = .asleep pc ∨ settled.threads id = .woken pc →
      ∃ size, pc = .waitCopy size []

/-- The statements that take the lock, and what comes of their sections. -/
theorem acquire_cases
    {pc after : Pc Byte bufferLen}
    (here : statement pc = .acquire after) :
    (∃ message, after = .publishCopy message 0) ∨
      (∃ size, after = .readTest size) ∨
      ∃ size, after = .waitCond size := by
  cases pc with
  | publishAcquire message =>
      cases here
      exact .inl ⟨message, rfl⟩
  | readAcquire size =>
      cases here
      exact .inr (.inl ⟨size, rfl⟩)
  | waitAcquire size =>
      cases here
      exact .inr (.inr ⟨size, rfl⟩)
  | publishTest buf =>
      simp only [statement] at here
      split at here <;> cases here
  | _ => cases here

section Matching

variable
  {settled : Settled Id (Topic Byte bufferLen) (Pc Byte bufferLen)}
  {topic : AtomicTopic Id Byte bufferLen}
  {id : Id}

/-- One thread moves, and the atomic topic notes its wait. -/
theorem matches_update
    {status : Status (Pc Byte bufferLen)}
    (same : Matches settled topic)
    (id : Id)
    (copies :
      ∀ pc,
        status = .asleep pc ∨ status = .woken pc →
        ∃ size, pc = .waitCopy size []) :
    Matches
      { settled with threads := Function.update settled.threads id status }
      { topic with
        waits := Function.update topic.waits id (waitOf status) } where
  buffer := same.buffer
  published := same.published
  waits other := by
    by_cases own : other = id
    · subst own
      simp
    · simp [own, same.waits other]
  copies other pc waits := by
    by_cases own : other = id
    · subst own
      simp only [Function.update_self] at waits
      exact copies pc waits
    · simp only [Function.update_of_ne own] at waits
      exact same.copies other pc waits

theorem matches_running
    {before : Pc Byte bufferLen}
    (same : Matches settled topic)
    (running : settled.threads id = .running before)
    (pc : Pc Byte bufferLen) :
    Matches
      { settled with
        threads := Function.update settled.threads id (.running pc) }
      topic := by
  have noWait : topic.waits id = .no := by
    rw [same.waits id, running]
    rfl
  have moved :=
    @matches_update _ _ _ _ settled topic (.running pc) same id
      (fun _ impossible => by rcases impossible with h | h <;> cases h)
  rwa [waitOf, ← noWait, Function.update_eq_self] at moved

/-- A message ends a wait as the broadcast wakes its thread. -/
theorem publish_waitOf
    (status : Status (Pc Byte bufferLen)) :
    (waitOf status).publish = waitOf status.wake := by
  cases status <;> rfl

/-- A publication wakes all threads that wait. -/
theorem matches_publish
    {before : Pc Byte bufferLen}
    (same : Matches settled topic)
    (running : settled.threads id = .running before)
    (message : Message Byte bufferLen)
    (pc : Pc Byte bufferLen) :
    Matches
      { shared := ⟨overlay settled.shared.buffer message, true⟩
        threads :=
          Function.update (Status.wake ∘ settled.threads) id
            (.running pc) }
      { buffer := overlay topic.buffer message
        published := true
        waits := Wait.publish ∘ topic.waits } := by
  have woken :
      Matches
        { shared := ⟨overlay settled.shared.buffer message, true⟩
          threads := Status.wake ∘ settled.threads }
        { buffer := overlay topic.buffer message
          published := true
          waits := Wait.publish ∘ topic.waits } :=
    { buffer := by rw [same.buffer]
      published := rfl
      waits := fun other => by
        simp only [Function.comp_apply, same.waits other, publish_waitOf]
      copies := fun other pc waits =>
        same.copies other pc (by simpa using waits) }
  exact matches_running woken (by simpa using running) pc

end Matching

@[simp] theorem Topic.copiedAtEnd_nil
    (topic : Topic Byte bufferLen)
    (size : Size bufferLen) :
    topic.copiedAtEnd size [] = topic.buffer.toList.take size :=
  rfl

variable [DecidableEq Byte]

namespace AtomicTopic

variable (topic : AtomicTopic Id Byte bufferLen) (id : Id)

theorem step?_publish
    (noWait : topic.waits id = .no)
    (message : Message Byte bufferLen) :
    step? topic (id, .publishRelease message) =
      some
        { buffer := overlay topic.buffer message
          published := true
          waits := Wait.publish ∘ topic.waits } := by
  simp [step?, noWait]

theorem step?_read
    (noWait : topic.waits id = .no)
    (size : Size bufferLen) :
    step? topic (id, .readRelease size (topic.read? size)) = some topic := by
  simp [step?, noWait]

theorem step?_waitCond
    (noWait : topic.waits id = .no)
    (size : Size bufferLen) :
    step? topic (id, .waitCond size) =
      some { topic with
        waits := Function.update topic.waits id .forMessage } := by
  simp [step?, noWait]

theorem step?_waitRelease
    (ended : topic.waits id = .ended)
    (size : Size bufferLen) :
    step? topic (id, .waitRelease size (topic.buffer.toList.take size)) =
      some { topic with waits := Function.update topic.waits id .no } := by
  simp [step?, ended]

end AtomicTopic

/-- The four events of an atomic topic, and when each may happen. -/
theorem AtomicTopic.step?_cases
    {topic next : AtomicTopic Id Byte bufferLen}
    {event : Id × Pc Byte bufferLen}
    (taken : AtomicTopic.step? topic event = some next) :
    (∃ message,
        event.2 = .publishRelease message ∧
          topic.waits event.1 = .no ∧
          next =
            { buffer := overlay topic.buffer message
              published := true
              waits := Wait.publish ∘ topic.waits }) ∨
      (∃ size result,
        event.2 = .readRelease size result ∧
          topic.waits event.1 = .no ∧
          result = topic.read? size ∧ next = topic) ∨
      (∃ size,
        event.2 = .waitCond size ∧
          topic.waits event.1 = .no ∧
          next =
            { topic with
              waits :=
                Function.update topic.waits event.1 .forMessage }) ∨
      ∃ size bytes,
        event.2 = .waitRelease size bytes ∧
          topic.waits event.1 = .ended ∧
          bytes = topic.buffer.toList.take size ∧
          next =
            { topic with
              waits := Function.update topic.waits event.1 .no } := by
  obtain ⟨id, pc⟩ := event
  cases pc with
  | publishRelease message =>
      simp only [AtomicTopic.step?] at taken
      split at taken
      · rename_i noWait
        cases taken
        exact .inl ⟨message, rfl, noWait, rfl⟩
      · cases taken
  | readRelease size result =>
      simp only [AtomicTopic.step?] at taken
      split at taken
      · rename_i accepted
        cases taken
        exact .inr (.inl
          ⟨size, result, rfl, accepted.1, accepted.2, rfl⟩)
      · cases taken
  | waitCond size =>
      simp only [AtomicTopic.step?] at taken
      split at taken
      · rename_i noWait
        cases taken
        exact .inr (.inr (.inl ⟨size, rfl, noWait, rfl⟩))
      · cases taken
  | waitRelease size bytes =>
      simp only [AtomicTopic.step?] at taken
      split at taken
      · rename_i accepted
        cases taken
        exact .inr (.inr (.inr
          ⟨size, bytes, rfl, accepted.1, accepted.2, rfl⟩))
      · cases taken
  | _ => cases taken

/-- Step lemma: each section is a call that the atomic topic accepts. -/
theorem matches_step
    {settled after : Settled Id (Topic Byte bufferLen) (Pc Byte bufferLen)}
    {topic : AtomicTopic Id Byte bufferLen}
    {action : Action Id (Pc Byte bufferLen)}
    (same : Matches settled topic)
    (taken : sections.step? settled action = some after) :
    ∃ topic',
      run? AtomicTopic.step? topic (sections.emit settled action) =
          some topic' ∧
        Matches after topic' := by
  rcases Sections.step?_cases taken with
    ⟨id, before, pc, running, rfl, silent⟩ |
    ⟨id, pc, enters, rfl, told⟩
  · exact ⟨topic, by rw [silent]; rfl, matches_running same running pc⟩
  · rw [told]
    rcases enters with ⟨before, running, here⟩ | woken
    · have noWait : topic.waits id = .no := by
        rw [same.waits id, running]
        rfl
      rcases acquire_cases here with
        ⟨message, rfl⟩ | ⟨size, rfl⟩ | ⟨size, rfl⟩
      · exact ⟨_,
          run?_cons_of_step (topic.step?_publish id noWait message) [],
          matches_publish same running message _⟩
      · refine ⟨topic, ?_, matches_running same running _⟩
        simp only [sections, finish, Topic.copiedAtEnd_nil, same.buffer,
          same.published]
        exact run?_cons_of_step (topic.step?_read id noWait size) []
      · refine ⟨_, run?_cons_of_step (topic.step?_waitCond id noWait size) [],
          ?_⟩
        exact matches_update same id (fun pc waits => ⟨size, by
          rcases waits with waits | impossible
          · cases waits
            rfl
          · cases impossible⟩)
    · obtain ⟨size, rfl⟩ := same.copies id pc (.inr woken)
      have ended : topic.waits id = .ended := by
        rw [same.waits id, woken]
        rfl
      simp only [sections, finish, Topic.copiedAtEnd_nil, same.buffer]
      refine ⟨_,
        run?_cons_of_step (topic.step?_waitRelease id ended size) [], ?_⟩
      exact matches_update same id
        (fun _ impossible => by rcases impossible with h | h <;> cases h)

omit [DecidableEq Id] [DecidableEq Byte] in
theorem matches_fresh
    (buffer : Vector Byte bufferLen) :
    Matches
      (⟨⟨buffer, false⟩, fun _ => .running .outside⟩ :
        Settled Id (Topic Byte bufferLen) (Pc Byte bufferLen))
      (AtomicTopic.fresh buffer) where
  buffer := rfl
  published := rfl
  waits _ := rfl
  copies _ _ impossible := by rcases impossible with h | h <;> cases h

/-- Run lemma: the atomic topic accepts the calls of every run. -/
theorem matches_run
    {topic : AtomicTopic Id Byte bufferLen}
    {state final : State Id (Topic Byte bufferLen) (Pc Byte bufferLen)}
    {actions : List (Action Id (Pc Byte bufferLen))}
    (exclusive : Exclusive program state)
    (free : state.owner = none)
    (same : Matches ⟨state.shared, state.threads⟩ topic)
    (ran : run? program.step? state actions = some final) :
    ∃ topic',
      run? AtomicTopic.step? topic
          (trace program.step? program.emit state actions) =
        some topic' ∧
        (final.owner = none →
          Matches ⟨final.shared, final.threads⟩ topic') :=
  Sections.trace_accepted_of_sections matches_step exclusive free same ran

/--
In every interleaving of the byte copies of any number of threads, the calls
give the results that they give on the atomic topic, one after the other in
the order in which they leave the lock.  While the lock is free the topic is
the atomic one, and the threads asleep are those for which nothing has been
published since they began to wait.
-/
theorem calls_atomic
    {buffer : Vector Byte bufferLen}
    {actions : List (Action Id (Pc Byte bufferLen))}
    {final : State Id (Topic Byte bufferLen) (Pc Byte bufferLen)}
    (ran :
      run? program.step? (boot ⟨buffer, false⟩ .outside) actions =
        some final) :
    ∃ topic,
      run? AtomicTopic.step? (AtomicTopic.fresh buffer)
          (trace program.step? program.emit (boot ⟨buffer, false⟩ .outside)
            actions) =
        some topic ∧
        (final.owner = none →
          Matches ⟨final.shared, final.threads⟩ topic) :=
  matches_run (exclusive_boot _ rfl) rfl (matches_fresh buffer) ran

/-- What thread 0 has room for. -/
def twoBytes : Size 3 := ⟨2, by decide⟩

/--
Thread 0 waits for two bytes.  While thread 1 copies three of them into the
buffer, thread 2 begins to publish one and thread 3 to read all; thread 2 is
the next that gets the lock.
-/
def overlapping : List (Action Nat (Pc Nat 3)) :=
  .call 0 (.waitAcquire twoBytes) :: List.replicate 2 (.step 0) ++
    .call 1 (.publishTest [7, 8, 9]) :: List.replicate 3 (.step 1) ++
    .call 2 (.publishTest [5]) :: .step 2 ::
    .call 3 (.readAcquire (Fin.last 3)) :: List.replicate 6 (.step 1) ++
    List.replicate 6 (.step 2) ++ List.replicate 5 (.step 0) ++
    List.replicate 7 (.step 3)

/-- Nothing is published, and no thread is in a call. -/
def unpublished : State Nat (Topic Nat 3) (Pc Nat 3) :=
  boot ⟨#v[0, 0, 0], false⟩ .outside

/-- All four calls have come back. -/
def overlappingRead : State Nat (Topic Nat 3) (Pc Nat 3) :=
  (run? program.step? unpublished overlapping).getD unpublished

theorem ran_overlapping :
    run? program.step? unpublished overlapping = some overlappingRead :=
  run?_eq_some_getD (by with_unfolding_all rfl)

theorem calls_atomic_overlapping :
    ∃ topic,
      run? AtomicTopic.step? (AtomicTopic.fresh #v[0, 0, 0])
          (trace program.step? program.emit unpublished overlapping) =
        some topic ∧
        (overlappingRead.owner = none →
          Matches ⟨overlappingRead.shared, overlappingRead.threads⟩
            topic) :=
  calls_atomic ran_overlapping

end EPuckTavern.MessageTopic
