import EPuckTavern.MessageTopic
import EPuckTavern.Transition.LockOrder

namespace EPuckTavern.WatchGroups

open Transition Transition.LockOrder

/-!
# Groups of topics that are watched together: `messagebus.c`

A thread that waits on a group waits for a message on any of its topics.  Each
topic has a list of watchers, and each watcher belongs to a group; who
publishes on the topic goes along the list, and takes the lock of one group
after the other while the lock of the topic is still held.
-/

/-- The locks of topics and of groups. -/
inductive Lock (Topic Group : Type) where
  | topic (topic : Topic)
  | group (group : Group)
  deriving DecidableEq

/-- The lock of a group is taken while that of a topic is held. -/
def before {Topic Group : Type} : Lock Topic Group → Lock Topic Group → Prop
  | .topic _, .group _ => True
  | _, _ => False

/-- There is no endless descent in the order of the locks. -/
theorem before_ends
    {Topic Group : Type} :
    WellFounded
      (flip (before : Lock Topic Group → Lock Topic Group → Prop)) := by
  let left : Lock Topic Group → Nat
    | .topic _ => 1
    | .group _ => 0
  refine Subrelation.wf ?_ (InvImage.wf left Nat.lt_wfRel.wf)
  intro later earlier order
  cases earlier with
  | topic topic =>
      cases later with
      | topic other => exact order.elim
      | group group => exact Nat.zero_lt_one
  | group group => exact order.elim

variable {Topic : Type}

/-- Topics, watchers and groups, with the pointers between them. -/
structure Shared
    (Watcher Group Byte : Type)
    (bufferLen : Topic → Nat) where
  topics : (topic : Topic) → MessageTopic.Topic Byte (bufferLen topic)
  /-- `watchers` of a topic; `NULL` is `none`. -/
  watchers : Topic → Option Watcher
  /-- `group` of a watcher -/
  group : Watcher → Option Group
  /-- `next` of a watcher -/
  next : Watcher → Option Watcher
  /-- `published_topic` of a group -/
  publishedTopic : Group → Option Topic

/-- Control points of the functions of topics and groups. -/
inductive Pc
    (Watcher Group Byte : Type)
    (bufferLen : Topic → Nat) where
  /-- Before the first call. -/
  | outside
  /-- `messagebus_topic_publish`, but for its loop, `_read` and `_wait`. -/
  | topic (topic : Topic) (pc : MessageTopic.Pc Byte (bufferLen topic))
  /-- `w = topic->watchers` -/
  | publishFirst
      (topic : Topic)
      (message : MessageTopic.Message Byte (bufferLen topic))
  /-- `w != NULL`, and the lock of the watcher's group -/
  | publishAcquire
      (topic : Topic)
      (message : MessageTopic.Message Byte (bufferLen topic))
      (w : Option Watcher)
  /-- `w->group->published_topic = topic` -/
  | publishMark
      (topic : Topic)
      (message : MessageTopic.Message Byte (bufferLen topic))
      (w : Watcher)
  | publishWake
      (topic : Topic)
      (message : MessageTopic.Message Byte (bufferLen topic))
      (w : Watcher)
  | publishLeave
      (topic : Topic)
      (message : MessageTopic.Message Byte (bufferLen topic))
      (w : Watcher)
  /-- `w = w->next` -/
  | publishNext
      (topic : Topic)
      (message : MessageTopic.Message Byte (bufferLen topic))
      (w : Watcher)
  | watchAcquire (watcher : Watcher) (group : Group) (topic : Topic)
  | watchAcquireGroup (watcher : Watcher) (group : Group) (topic : Topic)
  /-- `watcher->group = group` -/
  | watchGroup (watcher : Watcher) (group : Group) (topic : Topic)
  /-- `if (topic->watchers != NULL) watcher->next = topic->watchers` -/
  | watchNext (watcher : Watcher) (group : Group) (topic : Topic)
  /-- `topic->watchers = watcher` -/
  | watchFirst (watcher : Watcher) (group : Group) (topic : Topic)
  | watchReleaseGroup (group : Group) (topic : Topic)
  | watchRelease (topic : Topic)
  | watched
  | waitAcquire (group : Group)
  | waitCond (group : Group)
  /-- `res = group->published_topic` -/
  | waitRes (group : Group)
  | waitRelease (group : Group) (res : Option Topic)
  | waitReturned (res : Option Topic)

variable {Watcher Group Byte : Type} {bufferLen : Topic → Nat}

variable [DecidableEq Topic] [DecidableEq Watcher] [DecidableEq Group]

omit [DecidableEq Watcher] [DecidableEq Group] in
/-- A statement of a function that only works on the topic. -/
def onTopic
    (shared : Shared Watcher Group Byte bufferLen)
    (topic : Topic) :
    Monitor.Statement
      (MessageTopic.Topic Byte (bufferLen topic))
      (MessageTopic.Pc Byte (bufferLen topic)) →
    Statement (Lock Topic Group)
      (Shared Watcher Group Byte bufferLen)
      (Pc Watcher Group Byte bufferLen)
  | .acquire next => .acquire (.topic topic) (.topic topic next)
  | .release next => .release (.topic topic) (.topic topic next)
  | .condWait next => .condWait (.topic topic) (.topic topic next)
  | .broadcast next => .broadcast (.topic topic) (.topic topic next)
  | .work run =>
      .work
        { shared with
          topics :=
            Function.update shared.topics topic
              (run (shared.topics topic)).1 }
        (.topic topic (run (shared.topics topic)).2)
  | .own next => .work shared (.topic topic next)
  | .idle => .idle

/-- The functions, with the loop of publish over the watchers of its topic. -/
def statement
    (shared : Shared Watcher Group Byte bufferLen) :
    Pc Watcher Group Byte bufferLen →
    Statement (Lock Topic Group)
      (Shared Watcher Group Byte bufferLen)
      (Pc Watcher Group Byte bufferLen)
  | .outside | .watched | .waitReturned _ => .idle
  | .topic topic (.publishBroadcast message) =>
      .broadcast (.topic topic) (.publishFirst topic message)
  | .topic topic pc => onTopic shared topic (MessageTopic.statement pc)
  | .publishFirst topic message =>
      .work shared (.publishAcquire topic message (shared.watchers topic))
  | .publishAcquire topic message none =>
      .work shared (.topic topic (.publishRelease message))
  | .publishAcquire topic message (some w) =>
      (shared.group w).elim .fault fun group =>
        .acquire (.group group) (.publishMark topic message w)
  | .publishMark topic message w =>
      (shared.group w).elim .fault fun group =>
        .work
          { shared with
            publishedTopic :=
              Function.update shared.publishedTopic group (some topic) }
          (.publishWake topic message w)
  | .publishWake topic message w =>
      (shared.group w).elim .fault fun group =>
        .broadcast (.group group) (.publishLeave topic message w)
  | .publishLeave topic message w =>
      (shared.group w).elim .fault fun group =>
        .release (.group group) (.publishNext topic message w)
  | .publishNext topic message w =>
      .work shared (.publishAcquire topic message (shared.next w))
  | .watchAcquire watcher group topic =>
      .acquire (.topic topic) (.watchAcquireGroup watcher group topic)
  | .watchAcquireGroup watcher group topic =>
      .acquire (.group group) (.watchGroup watcher group topic)
  | .watchGroup watcher group topic =>
      .work
        { shared with
          group := Function.update shared.group watcher (some group) }
        (.watchNext watcher group topic)
  | .watchNext watcher group topic =>
      .work
        { shared with
          next :=
            if (shared.watchers topic).isSome then
              Function.update shared.next watcher (shared.watchers topic)
            else
              shared.next }
        (.watchFirst watcher group topic)
  | .watchFirst watcher group topic =>
      .work
        { shared with
          watchers := Function.update shared.watchers topic (some watcher) }
        (.watchReleaseGroup group topic)
  | .watchReleaseGroup group topic =>
      .release (.group group) (.watchRelease topic)
  | .watchRelease topic => .release (.topic topic) .watched
  | .waitAcquire group => .acquire (.group group) (.waitCond group)
  | .waitCond group => .condWait (.group group) (.waitRes group)
  | .waitRes group =>
      .work shared (.waitRelease group (shared.publishedTopic group))
  | .waitRelease group res => .release (.group group) (.waitReturned res)

/-- The calls: on topics, `messagebus_watchgroup_watch` and `_wait`. -/
def entry : Pc Watcher Group Byte bufferLen → Bool
  | .topic _ pc => MessageTopic.entry pc
  | .watchAcquire _ _ _ | .waitAcquire _ => true
  | _ => false

/-- The locks that are held at a control point. -/
def held
    (shared : Shared Watcher Group Byte bufferLen) :
    Pc Watcher Group Byte bufferLen → List (Lock Topic Group)
  | .topic topic pc => if MessageTopic.inside pc then [.topic topic] else []
  | .publishFirst topic _ | .publishAcquire topic _ _
  | .publishNext topic _ _ | .watchAcquireGroup _ _ topic
  | .watchRelease topic => [.topic topic]
  | .publishMark topic _ w | .publishWake topic _ w
  | .publishLeave topic _ w =>
      (shared.group w).toList.map .group ++ [.topic topic]
  | .watchGroup _ group topic | .watchNext _ group topic
  | .watchFirst _ group topic | .watchReleaseGroup group topic =>
      [.group group, .topic topic]
  | .waitCond group | .waitRes group | .waitRelease group _ => [.group group]
  | .outside | .watchAcquire _ _ _ | .watched | .waitAcquire _
  | .waitReturned _ => []

/-- Topics and groups as a program with several locks. -/
def program :
    Program (Lock Topic Group)
      (Shared Watcher Group Byte bufferLen)
      (Pc Watcher Group Byte bufferLen) where
  statement := statement
  entry := entry
  held := held
  entry_outside shared pc isEntry := by
    cases pc with
    | topic topic pc =>
        have outside : MessageTopic.inside pc = false :=
          MessageTopic.program.entry_outside pc isEntry
        simp [held, outside]
    | watchAcquire watcher group topic | waitAcquire group => rfl
    | _ => cases isEntry

/-- Topics without watchers, and watchers and groups that C has cleared. -/
def cleared
    (topics : (topic : Topic) → MessageTopic.Topic Byte (bufferLen topic)) :
    Shared Watcher Group Byte bufferLen where
  topics := topics
  watchers _ := none
  group _ := none
  next _ := none
  publishedTopic _ := none

end EPuckTavern.WatchGroups
