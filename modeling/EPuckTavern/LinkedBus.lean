import EPuckTavern.Transition.MonitorView
import EPuckTavern.TopicList

namespace EPuckTavern.LinkedBus

open Data Transition Transition.Monitor MessageBus

/-!
# The bus as the code has it: its list of topics under its lock

`messagebus_advertise_topic` writes the name of the topic before it takes the
lock.  `topic_by_name` goes from topic to topic with the lock in its hands.
-/

variable {Topic Letter : Type}

/-- Control points of the three functions, and their results. -/
inductive Pc (Topic Letter : Type) where
  /-- Before the first call. -/
  | outside
  /-- `memset(topic->name, 0, ...)` -/
  | advertiseClear (topic : Topic) (name : List Letter)
  /-- `strncpy(topic->name, name, ...)` -/
  | advertiseName (topic : Topic) (name : List Letter)
  | advertiseAcquire (topic : Topic) (name : List Letter)
  /-- The three lines that put the topic into the list. -/
  | advertiseLink (topic : Topic) (name : List Letter)
  | advertiseBroadcast (topic : Topic) (name : List Letter)
  | advertiseRelease (topic : Topic) (name : List Letter)
  | advertised
  | findAcquire (name : List Letter)
  /-- `t = bus->topics.head` -/
  | findHead (name : List Letter)
  /-- `t != NULL`, `!strcmp(name, t->name)` and `t = t->next` -/
  | findNext (name : List Letter) (t : Option Topic)
  | findRelease (name : List Letter) (res : Option Topic)
  | found (res : Option Topic)
  | blockingAcquire (name : List Letter)
  | blockingHead (name : List Letter)
  | blockingNext (name : List Letter) (t : Option Topic)
  | blockingWait (name : List Letter)
  | blockingRelease (name : List Letter) (res : Topic)
  | blockingFound (res : Topic)
  deriving DecidableEq

/-- How a round of the loop of `topic_by_name` ends. -/
inductive Round (Topic : Type) where
  | returned (res : Option Topic)
  | goesOn (t : Option Topic)
  deriving DecidableEq

variable [DecidableEq Letter]

/-- A round of the loop of `topic_by_name`. -/
def round
    (list : TopicList Topic Letter)
    (name : List Letter) : Option Topic → Round Topic
  | none => .returned none
  | some t =>
      if name = list.name t then
        .returned (some t)
      else
        .goesOn (list.next t)

variable [DecidableEq Topic]

/-- The statement at each control point. -/
def statement :
    Pc Topic Letter →
    Statement (TopicList Topic Letter) (Pc Topic Letter)
  | .outside => .idle
  | .advertiseClear topic name =>
      .work fun list => (list.clear topic, .advertiseName topic name)
  | .advertiseName topic name =>
      .work fun list =>
        (list.store topic name, .advertiseAcquire topic name)
  | .advertiseAcquire topic name => .acquire (.advertiseLink topic name)
  | .advertiseLink topic name =>
      .work fun list => (list.link topic, .advertiseBroadcast topic name)
  | .advertiseBroadcast topic name =>
      .broadcast (.advertiseRelease topic name)
  | .advertiseRelease _ _ => .release .advertised
  | .advertised => .idle
  | .findAcquire name => .acquire (.findHead name)
  | .findHead name => .work fun list => (list, .findNext name list.head)
  | .findNext name t =>
      .work fun list =>
        (list,
          match round list name t with
          | .returned res => .findRelease name res
          | .goesOn t => .findNext name t)
  | .findRelease _ res => .release (.found res)
  | .found _ => .idle
  | .blockingAcquire name => .acquire (.blockingHead name)
  | .blockingHead name =>
      .work fun list => (list, .blockingNext name list.head)
  | .blockingNext name t =>
      .work fun list =>
        (list,
          match round list name t with
          | .returned (some res) => .blockingRelease name res
          | .returned none => .blockingWait name
          | .goesOn t => .blockingNext name t)
  | .blockingWait name => .condWait (.blockingHead name)
  | .blockingRelease _ res => .release (.blockingFound res)
  | .blockingFound _ => .idle

/-- The control points at which a thread has the lock of the bus. -/
def inside : Pc Topic Letter → Bool
  | .advertiseLink _ _ | .advertiseBroadcast _ _ | .advertiseRelease _ _
  | .findHead _ | .findNext _ _ | .findRelease _ _
  | .blockingHead _ | .blockingNext _ _ | .blockingWait _
  | .blockingRelease _ _ => true
  | _ => false

/-- The calls: advertise, find, and find and wait. -/
def entry : Pc Topic Letter → Bool
  | .advertiseClear _ _ | .findAcquire _ | .blockingAcquire _ => true
  | _ => false

/-- Each statement takes and gives back the lock where it may. -/
theorem coherent
    (pc : Pc Topic Letter) :
    (statement pc).Coherent inside pc := by
  cases pc with
  | outside | advertised | found res | blockingFound res => rfl
  | findNext name t | blockingNext name t =>
      intro list
      dsimp only
      split <;> rfl
  | advertiseClear topic name | advertiseName topic name
  | advertiseLink topic name | findHead name | blockingHead name =>
      exact fun _ => rfl
  | advertiseAcquire topic name | advertiseBroadcast topic name
  | advertiseRelease topic name | findAcquire name | findRelease name res
  | blockingAcquire name | blockingWait name | blockingRelease name res =>
      exact ⟨rfl, rfl⟩

/-- The three functions as a program. -/
def program : Program (TopicList Topic Letter) (Pc Topic Letter) where
  statement := statement
  inside := inside
  entry := entry
  coherent := coherent
  entry_outside pc isEntry := by
    cases pc <;> first | rfl | cases isEntry

/-- The bus after `messagebus_init`, and no thread in a call. -/
def start {Id : Type} : State Id (TopicList Topic Letter) (Pc Topic Letter) :=
  boot .init .outside

/-- The topics that the calls of a run advertise. -/
def advertisedTopics
    {Id : Type}
    (actions : List (Action Id (Pc Topic Letter))) : List Topic :=
  actions.filterMap fun
    | .call _ (.advertiseClear topic _) => some topic
    | _ => none

/-- Where the thread stands in the functions on a bus of entries. -/
def view : Pc Topic Letter → MessageBus.Pc Topic Letter
  | .outside => .outside
  | .advertiseClear topic name => .advertiseName topic name
  | .advertiseName topic name => .advertiseName topic name
  | .advertiseAcquire topic name => .advertiseAcquire (named topic name)
  | .advertiseLink topic name => .advertiseLink (named topic name)
  | .advertiseBroadcast topic name => .advertiseBroadcast (named topic name)
  | .advertiseRelease topic name => .advertiseRelease (named topic name)
  | .advertised => .advertised
  | .findAcquire name => .findAcquire name
  | .findHead name => .findLook name
  | .findNext name _ => .findLook name
  | .findRelease name res => .findRelease name res
  | .found res => .found res
  | .blockingAcquire name => .blockingAcquire name
  | .blockingHead name => .blockingLook name
  | .blockingNext name _ => .blockingLook name
  | .blockingWait name => .blockingWait name
  | .blockingRelease name res => .blockingRelease name res
  | .blockingFound res => .blockingFound res

/-- The functions lock as those of the bus of entries do. -/
theorem locksAs :
    LocksAs view (program : Program (TopicList Topic Letter) _)
      MessageBus.program where
  statement pc := by
    cases pc <;> first | rfl | trivial
  entry pc isEntry := by
    cases pc <;> first | rfl | cases isEntry

end EPuckTavern.LinkedBus
