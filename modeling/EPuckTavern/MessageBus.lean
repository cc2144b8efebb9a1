import EPuckTavern.Transition.Sections

namespace EPuckTavern.MessageBus

open Transition Transition.Monitor

/-!
# A bus of entries, what `messagebus.c` is for

Topics are advertised and found by their names under one lock; a blocking find
waits until there is one.  Here the list is a value: an entry keeps its name,
and a look at the list is one statement.  The functions of `messagebus.c`, on
the nodes themselves, are in `LinkedBus`; they do what this bus does as long as
no topic is advertised twice, and no longer then.
-/

/-- `TOPIC_NAME_MAX_LENGTH` -/
def topicNameMaxLength : Nat := 64

/-- A topic, and the name that is stored in it. -/
structure Entry (Topic Letter : Type) where
  topic : Topic
  name : List Letter
  fits : name.length ≤ topicNameMaxLength
  deriving DecidableEq

variable {Topic Letter : Type}

/-- `strncpy` into the cleared `name` of a topic. -/
def named (topic : Topic) (name : List Letter) : Entry Topic Letter where
  topic := topic
  name := name.take topicNameMaxLength
  fits := List.length_take_le topicNameMaxLength name

/-- The list that `topics.head` begins; the topic advertised last is first. -/
abbrev Bus (Topic Letter : Type) := List (Entry Topic Letter)

/-- `topic_by_name` -/
def topicByName?
    [DecidableEq Letter]
    (bus : Bus Topic Letter)
    (name : List Letter) : Option Topic :=
  (bus.find? fun entry => name = entry.name).map Entry.topic

/-- Control points of the three functions, and their results. -/
inductive Pc (Topic Letter : Type) where
  /-- Before the first call. -/
  | outside
  | advertiseName (topic : Topic) (name : List Letter)
  | advertiseAcquire (entry : Entry Topic Letter)
  | advertiseLink (entry : Entry Topic Letter)
  | advertiseBroadcast (entry : Entry Topic Letter)
  | advertiseRelease (entry : Entry Topic Letter)
  | advertised
  | findAcquire (name : List Letter)
  | findLook (name : List Letter)
  | findRelease (name : List Letter) (res : Option Topic)
  | found (res : Option Topic)
  | blockingAcquire (name : List Letter)
  /-- `res = topic_by_name(bus, name)` and the tests of `res`. -/
  | blockingLook (name : List Letter)
  | blockingWait (name : List Letter)
  | blockingRelease (name : List Letter) (res : Topic)
  | blockingFound (res : Topic)
  deriving DecidableEq

variable [DecidableEq Letter]

/-- The three functions on the bus of entries. -/
def statement :
    Pc Topic Letter → Statement (Bus Topic Letter) (Pc Topic Letter)
  | .outside => .idle
  | .advertiseName topic name =>
      .own (.advertiseAcquire (named topic name))
  | .advertiseAcquire entry => .acquire (.advertiseLink entry)
  | .advertiseLink entry =>
      .work fun bus => (entry :: bus, .advertiseBroadcast entry)
  | .advertiseBroadcast entry => .broadcast (.advertiseRelease entry)
  | .advertiseRelease _ => .release .advertised
  | .advertised => .idle
  | .findAcquire name => .acquire (.findLook name)
  | .findLook name =>
      .work fun bus => (bus, .findRelease name (topicByName? bus name))
  | .findRelease _ res => .release (.found res)
  | .found _ => .idle
  | .blockingAcquire name => .acquire (.blockingLook name)
  | .blockingLook name =>
      .work fun bus =>
        match topicByName? bus name with
        | some res => (bus, .blockingRelease name res)
        | none => (bus, .blockingWait name)
  | .blockingWait name => .condWait (.blockingLook name)
  | .blockingRelease _ res => .release (.blockingFound res)
  | .blockingFound _ => .idle

/-- The control points between the two calls of the lock. -/
def inside : Pc Topic Letter → Bool
  | .advertiseLink _ | .advertiseBroadcast _ | .advertiseRelease _
  | .findLook _ | .findRelease _ _ | .blockingLook _ | .blockingWait _
  | .blockingRelease _ _ => true
  | _ => false

/-- The calls: advertise, find, and find and wait. -/
def entry : Pc Topic Letter → Bool
  | .advertiseName _ _ | .findAcquire _ | .blockingAcquire _ => true
  | _ => false

theorem coherent
    (pc : Pc Topic Letter) :
    (statement pc).Coherent inside pc := by
  cases pc with
  | outside | advertised | found res | blockingFound res
  | advertiseName topic name => rfl
  | blockingLook name =>
      intro bus
      dsimp only
      split <;> rfl
  | advertiseLink entry | findLook name => exact fun _ => rfl
  | advertiseAcquire entry | advertiseBroadcast entry
  | advertiseRelease entry | findAcquire name | findRelease name res
  | blockingAcquire name | blockingWait name | blockingRelease name res =>
      exact ⟨rfl, rfl⟩

/-- The bus of entries as a monitor. -/
def program : Program (Bus Topic Letter) (Pc Topic Letter) where
  statement := statement
  inside := inside
  entry := entry
  coherent := coherent
  entry_outside pc isEntry := by
    cases pc <;> first | rfl | cases isEntry

/-- What is left of the section from each control point inside it. -/
def finish :
    Pc Topic Letter →
    Bus Topic Letter →
    Outcome (Bus Topic Letter) (Pc Topic Letter)
  | .advertiseLink entry, bus =>
      ⟨entry :: bus, .advertiseRelease entry, true⟩
  | .advertiseBroadcast entry, bus => ⟨bus, .advertiseRelease entry, true⟩
  | .findLook name, bus =>
      ⟨bus, .findRelease name (topicByName? bus name), false⟩
  | .blockingLook name, bus =>
      match topicByName? bus name with
      | some res => ⟨bus, .blockingRelease name res, false⟩
      | none => ⟨bus, .blockingWait name, false⟩
  | pc, bus => ⟨bus, pc, false⟩

theorem finishes
    (pc : Pc Topic Letter)
    (bus : Bus Topic Letter)
    (isInside : inside pc = true) :
    (statement pc).Finishes finish pc bus := by
  cases pc with
  | advertiseName topic name => cases isInside
  | blockingLook name =>
      simp only [statement, Statement.Finishes, finish]
      split <;> rfl
  | _ => first | rfl | trivial

/-- Its sections, each in one piece. -/
def sections :
    Sections (program : Program (Bus Topic Letter) (Pc Topic Letter)) where
  finish := finish
  guarded pc _ works := by
    cases pc <;> first | rfl | cases works
  finishes := finishes

end EPuckTavern.MessageBus
