import EPuckTavern.Transition.Sections

namespace EPuckTavern.MessageTopic

open Transition Transition.Monitor

/-!
# One topic of the message bus: `messagebus.c`

Any number of threads publish messages on a topic, read the last one or wait
for the next.  All of them take the lock of the topic, and `memcpy` moves one
byte after the other.  No topic of the robot has watchers.
-/

/-- The members of a `messagebus_topic_t` that its lock guards. -/
structure Topic (Byte : Type) (bufferLen : Nat) where
  buffer : Vector Byte bufferLen
  published : Bool

/-- A message that is not too big for the topic. -/
structure Message (Byte : Type) (bufferLen : Nat) where
  bytes : List Byte
  fits : bytes.length ≤ bufferLen
  deriving DecidableEq

/-- How much a caller wants to read; C leaves a longer copy undefined. -/
abbrev Size (bufferLen : Nat) := Fin (bufferLen + 1)

/-- Control points of the three functions, and their results. -/
inductive Pc (Byte : Type) (bufferLen : Nat) where
  /-- Before the first call. -/
  | outside
  /-- `topic->buffer_len < buf_len` -/
  | publishTest (buf : List Byte)
  | publishAcquire (message : Message Byte bufferLen)
  | publishCopy (message : Message Byte bufferLen) (index : Nat)
  | publishFlag (message : Message Byte bufferLen)
  | publishBroadcast (message : Message Byte bufferLen)
  | publishRelease (message : Message Byte bufferLen)
  | publishReturned (result : Bool)
  | readAcquire (size : Size bufferLen)
  /-- `if (topic->published)` -/
  | readTest (size : Size bufferLen)
  | readCopy (size : Size bufferLen) (copied : List Byte)
  | readRelease (size : Size bufferLen) (result : Option (List Byte))
  | readReturned (result : Option (List Byte))
  | waitAcquire (size : Size bufferLen)
  | waitCond (size : Size bufferLen)
  | waitCopy (size : Size bufferLen) (copied : List Byte)
  | waitRelease (size : Size bufferLen) (copied : List Byte)
  | waitReturned (copied : List Byte)
  deriving DecidableEq

variable {Byte : Type} {bufferLen : Nat}

/-- A step of `memcpy(topic->buffer, buf, buf_len)`, and what comes next. -/
def Topic.copyIn
    (topic : Topic Byte bufferLen)
    (message : Message Byte bufferLen)
    (index : Nat) : Topic Byte bufferLen × Pc Byte bufferLen :=
  if more : index < message.bytes.length then
    ({ topic with
        buffer :=
          topic.buffer.set index message.bytes[index]
            (Nat.lt_of_lt_of_le more message.fits) },
      .publishCopy message (index + 1))
  else
    (topic, .publishFlag message)

/-- A step of `memcpy(buf, topic->buffer, buf_len)`: the byte, or the end. -/
def Topic.copyOut
    (topic : Topic Byte bufferLen)
    (size : Size bufferLen)
    (copied : List Byte) : Option Byte :=
  if more : copied.length < size then
    some topic.buffer[copied.length]
  else
    none

/-- The three functions, `memcpy` byte by byte. -/
def statement :
    Pc Byte bufferLen →
    Statement (Topic Byte bufferLen) (Pc Byte bufferLen)
  | .outside => .idle
  | .publishTest buf =>
      if fits : buf.length ≤ bufferLen then
        .own (.publishAcquire ⟨buf, fits⟩)
      else
        .own (.publishReturned false)
  | .publishAcquire message => .acquire (.publishCopy message 0)
  | .publishCopy message index =>
      .work fun topic => topic.copyIn message index
  | .publishFlag message =>
      .work fun topic =>
        ({ topic with published := true }, .publishBroadcast message)
  | .publishBroadcast message => .broadcast (.publishRelease message)
  | .publishRelease _ => .release (.publishReturned true)
  | .publishReturned _ => .idle
  | .readAcquire size => .acquire (.readTest size)
  | .readTest size =>
      .work fun topic =>
        (topic,
          if topic.published then .readCopy size []
          else .readRelease size none)
  | .readCopy size copied =>
      .work fun topic =>
        match topic.copyOut size copied with
        | some byte => (topic, .readCopy size (copied ++ [byte]))
        | none => (topic, .readRelease size (some copied))
  | .readRelease _ result => .release (.readReturned result)
  | .readReturned _ => .idle
  | .waitAcquire size => .acquire (.waitCond size)
  | .waitCond size => .condWait (.waitCopy size [])
  | .waitCopy size copied =>
      .work fun topic =>
        match topic.copyOut size copied with
        | some byte => (topic, .waitCopy size (copied ++ [byte]))
        | none => (topic, .waitRelease size copied)
  | .waitRelease _ copied => .release (.waitReturned copied)
  | .waitReturned _ => .idle

/-- The control points between the two calls of the lock. -/
def inside : Pc Byte bufferLen → Bool
  | .publishCopy _ _ | .publishFlag _ | .publishBroadcast _
  | .publishRelease _ | .readTest _ | .readCopy _ _ | .readRelease _ _
  | .waitCond _ | .waitCopy _ _ | .waitRelease _ _ => true
  | _ => false

/-- The calls: publish, read and wait. -/
def entry : Pc Byte bufferLen → Bool
  | .publishTest _ | .readAcquire _ | .waitAcquire _ => true
  | _ => false

/-- A copy of bytes keeps the lock. -/
theorem inside_copyIn
    (topic : Topic Byte bufferLen)
    (message : Message Byte bufferLen)
    (index : Nat) :
    inside (topic.copyIn message index).2 = true := by
  unfold Topic.copyIn
  split <;> rfl

theorem coherent
    (pc : Pc Byte bufferLen) :
    (statement pc).Coherent inside pc := by
  cases pc with
  | publishTest buf =>
      simp only [statement]
      split <;> rfl
  | publishCopy message index =>
      exact fun topic => inside_copyIn topic message index
  | readTest size =>
      intro topic
      dsimp only
      split <;> rfl
  | readCopy size copied | waitCopy size copied =>
      intro topic
      dsimp only
      split <;> rfl
  | publishFlag message => exact fun _ => rfl
  | outside | publishReturned result | readReturned result
  | waitReturned copied => rfl
  | publishAcquire message | publishBroadcast message
  | publishRelease message | readAcquire size | readRelease size result
  | waitAcquire size | waitCond size | waitRelease size copied =>
      exact ⟨rfl, rfl⟩

/-- The topic as a monitor. -/
def program : Program (Topic Byte bufferLen) (Pc Byte bufferLen) where
  statement := statement
  inside := inside
  entry := entry
  coherent := coherent
  entry_outside pc isEntry := by
    cases pc <;> first | rfl | cases isEntry

end EPuckTavern.MessageTopic
