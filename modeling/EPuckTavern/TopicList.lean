import Mathlib.Data.List.Find
import Mathlib.Data.List.Induction
import Mathlib.Data.List.Nodup
import EPuckTavern.Data.LinkedList
import EPuckTavern.MessageBus

namespace EPuckTavern.MessageBus

open Data

/-!
# The list of topics as the code links it

`messagebus_advertise_topic` puts a topic before the head of the list.  A
topic that stands in the list already then points back to it, and a
`topic_by_name` that does not find its name goes round for ever, with the lock
of the bus in its hands.
-/

/-- `topics.head` of the bus, with the `next` and the `name` of each topic. -/
structure TopicList (Topic Letter : Type) where
  head : Option Topic
  next : Topic → Option Topic
  name : Topic → List Letter

variable {Topic Letter : Type}

namespace TopicList

/-- After `messagebus_init`, and `messagebus_topic_init` of each topic. -/
def init : TopicList Topic Letter where
  head := none
  next _ := none
  name _ := []

section Statements

variable [DecidableEq Topic]

/-- `memset(topic->name, 0, sizeof(topic->name))` -/
def clear
    (list : TopicList Topic Letter)
    (topic : Topic) : TopicList Topic Letter :=
  { list with name := Function.update list.name topic [] }

/-- `strncpy(topic->name, name, TOPIC_NAME_MAX_LENGTH)` into cleared bytes. -/
def store
    (list : TopicList Topic Letter)
    (topic : Topic)
    (name : List Letter) : TopicList Topic Letter :=
  { list with
    name := Function.update list.name topic (named topic name).name }

/-- The topic is put before the head, if there is one, and is the head. -/
def link
    (list : TopicList Topic Letter)
    (topic : Topic) : TopicList Topic Letter where
  head := some topic
  next :=
    if list.head.isSome then
      Function.update list.next topic list.head
    else
      list.next
  name := list.name

/-- The statements of `messagebus_advertise_topic` on the list. -/
def advertise
    (list : TopicList Topic Letter)
    (topic : Topic)
    (name : List Letter) : TopicList Topic Letter :=
  ((list.clear topic).store topic name).link topic

end Statements

/-- The loop of `topic_by_name`; `none` as long as it goes on. -/
def find?
    [DecidableEq Letter]
    (list : TopicList Topic Letter)
    (fuel : Nat)
    (name : List Letter) : Option (Option Topic) :=
  walk? list.next (fun topic => name = list.name topic) fuel list.head

end TopicList

/-- The calls of `messagebus_advertise_topic`, oldest first. -/
def advertiseAll
    [DecidableEq Topic]
    (calls : List (Topic × List Letter)) : TopicList Topic Letter :=
  calls.foldl (fun list call => list.advertise call.1 call.2) .init

/-- The bus that the same calls give. -/
def busOf (calls : List (Topic × List Letter)) : Bus Topic Letter :=
  (calls.map fun call => named call.1 call.2).reverse

/-- The list links the topics of the bus, and no other is linked. -/
structure Represents
    (list : TopicList Topic Letter)
    (bus : Bus Topic Letter) : Prop where
  linked : Linked list.next list.head (bus.map Entry.topic)
  names : ∀ entry ∈ bus, list.name entry.topic = entry.name
  others : ∀ topic, topic ∉ bus.map Entry.topic → list.next topic = none

theorem represents_init :
    Represents (TopicList.init : TopicList Topic Letter) [] where
  linked := rfl
  names _ impossible := by cases impossible
  others _ _ := rfl

/-- The list goes round: its head leads into a loop. -/
def HasLoop (list : TopicList Topic Letter) : Prop :=
  ∃ inLoop,
    Loop list.next inLoop ∧
      ∃ start, list.head = some start ∧ inLoop start

section Finding

variable [DecidableEq Letter]

/--
With fuel for each topic, a search on the nodes finds what one on the bus
does.
-/
theorem Represents.find?
    {list : TopicList Topic Letter}
    {bus : Bus Topic Letter}
    {fuel : Nat}
    (represents : Represents list bus)
    (enough : bus.length ≤ fuel)
    (name : List Letter) :
    list.find? fuel name = some (topicByName? bus name) := by
  rw [TopicList.find?,
    walk?_of_linked represents.linked (by simpa using enough), List.find?_map,
    topicByName?]
  congr 2
  refine List.find?_congr fun entry member => ?_
  simp only [Function.comp_apply, represents.names entry member]

end Finding

section Advertising

variable [DecidableEq Topic]

/-- The name of a topic that is not linked may change. -/
theorem Represents.rename
    {list : TopicList Topic Letter}
    {bus : Bus Topic Letter}
    {topic : Topic}
    (represents : Represents list bus)
    (fresh : topic ∉ bus.map Entry.topic)
    (name : List Letter) :
    Represents { list with name := Function.update list.name topic name }
      bus where
  linked := represents.linked
  names entry member := by
    have other : entry.topic ≠ topic := fun own =>
      fresh (own ▸ List.mem_map_of_mem member)
    simp only [Function.update_of_ne other]
    exact represents.names entry member
  others := represents.others

/-- A topic that is not linked yet is linked before all others. -/
theorem Represents.link
    {list : TopicList Topic Letter}
    {bus : Bus Topic Letter}
    {topic : Topic}
    {name : List Letter}
    (represents : Represents list bus)
    (fresh : topic ∉ bus.map Entry.topic)
    (stored : list.name topic = (named topic name).name) :
    Represents (list.link topic) (named topic name :: bus) where
  linked := by
    refine ⟨rfl, ?_⟩
    have linked := represents.linked
    simp only [TopicList.link]
    cases head : list.head with
    | none =>
        rw [head] at linked
        simp only [named, Option.isSome_none, Bool.false_eq_true, if_false,
          represents.others topic fresh]
        exact linked
    | some first =>
        rw [head] at linked
        simp only [named, Option.isSome_some, if_true, Function.update_self]
        exact linked.update fresh
  names entry member := by
    rcases List.mem_cons.mp member with rfl | member
    · exact stored
    · exact represents.names entry member
  others other outside := by
    simp only [List.map_cons, List.mem_cons, not_or] at outside
    have unlinked := represents.others other outside.2
    have notOwn : other ≠ topic := outside.1
    simp only [TopicList.link]
    split
    · rw [Function.update_of_ne notOwn, unlinked]
    · exact unlinked

/-- So it is after all statements of an advertisement. -/
theorem Represents.advertise
    {list : TopicList Topic Letter}
    {bus : Bus Topic Letter}
    {topic : Topic}
    (represents : Represents list bus)
    (fresh : topic ∉ bus.map Entry.topic)
    (name : List Letter) :
    Represents (list.advertise topic name) (named topic name :: bus) :=
  ((represents.rename fresh []).rename fresh _).link fresh
    (Function.update_self _ _ _)

/-- A topic that is linked already is linked into a loop. -/
theorem Represents.hasLoop
    {list : TopicList Topic Letter}
    {bus : Bus Topic Letter}
    {topic : Topic}
    (represents : Represents list bus)
    (again : topic ∈ bus.map Entry.topic)
    (name : List Letter) :
    HasLoop (list.advertise topic name) := by
  obtain ⟨inLoop, loop, start, head, inside⟩ :=
    represents.linked.exists_loop again
  rw [head] at loop
  refine ⟨fun other => other = topic ∨ inLoop other, ?_, topic, rfl, .inl rfl⟩
  have twice := loop.insert inside topic
  rw [Function.update_idem] at twice
  simpa [TopicList.advertise, TopicList.clear, TopicList.store,
    TopicList.link, head] using twice

/-- A list that is closed to a loop stays so. -/
theorem HasLoop.advertise
    {list : TopicList Topic Letter}
    (hasLoop : HasLoop list)
    (topic : Topic)
    (name : List Letter) :
    HasLoop (list.advertise topic name) := by
  obtain ⟨inLoop, loop, start, head, inside⟩ := hasLoop
  refine ⟨fun other => other = topic ∨ inLoop other, ?_, topic, rfl, .inl rfl⟩
  simpa [TopicList.advertise, TopicList.clear, TopicList.store,
    TopicList.link, head] using loop.insert inside topic

theorem advertiseAll_snoc
    (calls : List (Topic × List Letter))
    (topic : Topic)
    (name : List Letter) :
    advertiseAll (calls ++ [(topic, name)]) =
      (advertiseAll calls).advertise topic name := by
  simp [advertiseAll]

omit [DecidableEq Topic] in
theorem busOf_snoc
    (calls : List (Topic × List Letter))
    (topic : Topic)
    (name : List Letter) :
    busOf (calls ++ [(topic, name)]) = named topic name :: busOf calls := by
  simp [busOf]

omit [DecidableEq Topic] in
/-- The topics of the bus are those of the calls, the last one first. -/
theorem topics_busOf
    (calls : List (Topic × List Letter)) :
    (busOf calls).map Entry.topic = (calls.map Prod.fst).reverse := by
  simp [busOf, named, Function.comp_def]

/-- The list is the bus, or it goes round once a topic has come twice. -/
theorem represents_or_hasLoop
    (calls : List (Topic × List Letter)) :
    (calls.map Prod.fst).Nodup ∧
        Represents (advertiseAll calls) (busOf calls) ∨
      ¬ (calls.map Prod.fst).Nodup ∧ HasLoop (advertiseAll calls) := by
  induction calls using List.reverseRecOn with
  | nil => exact .inl ⟨List.nodup_nil, represents_init⟩
  | append_singleton calls call inductionHypothesis =>
      obtain ⟨topic, name⟩ := call
      rw [advertiseAll_snoc, busOf_snoc, List.map_append]
      rcases inductionHypothesis with
        ⟨nodup, represents⟩ | ⟨twice, hasLoop⟩
      · by_cases again : topic ∈ calls.map Prod.fst
        · refine .inr ⟨fun nodup => ?_, represents.hasLoop ?_ name⟩
          · exact List.disjoint_of_nodup_append nodup again (by simp)
          · rw [topics_busOf]
            exact List.mem_reverse.mpr again
        · refine .inl ⟨?_, represents.advertise ?_ name⟩
          · exact nodup.append (List.nodup_singleton topic)
              (by simpa using again)
          · rw [topics_busOf]
            exact fun member => again (List.mem_reverse.mp member)
      · exact .inr ⟨fun nodup => twice (List.Nodup.of_append_left nodup),
          hasLoop.advertise topic name⟩

/-- No stored name is longer than its array. -/
theorem length_name_le
    (calls : List (Topic × List Letter))
    (topic : Topic) :
    ((advertiseAll calls).name topic).length ≤ topicNameMaxLength := by
  induction calls using List.reverseRecOn with
  | nil => exact Nat.zero_le _
  | append_singleton calls call inductionHypothesis =>
      obtain ⟨other, name⟩ := call
      rw [advertiseAll_snoc]
      simp only [TopicList.advertise, TopicList.link, TopicList.store,
        TopicList.clear, Function.update_apply]
      split
      · exact (named other name).fits
      · exact inductionHypothesis

end Advertising

variable [DecidableEq Topic] [DecidableEq Letter]

/--
For topics advertised once each, `topic_by_name` on the list finds what stands
on the bus.
-/
theorem find?_advertiseAll
    {calls : List (Topic × List Letter)}
    {fuel : Nat}
    (once : (calls.map Prod.fst).Nodup)
    (enough : calls.length ≤ fuel)
    (name : List Letter) :
    (advertiseAll calls).find? fuel name =
      some (topicByName? (busOf calls) name) := by
  rcases represents_or_hasLoop calls with ⟨-, represents⟩ | ⟨twice, -⟩
  · exact represents.find? (by simpa [busOf] using enough) name
  · exact (twice once).elim

/--
After any calls of `messagebus_advertise_topic`, `topic_by_name` comes to an
end for every name if and only if no topic has been advertised twice.
-/
theorem find?_ends_iff_advertised_once
    [Inhabited Letter]
    (calls : List (Topic × List Letter)) :
    (∀ name, ∃ fuel res, (advertiseAll calls).find? fuel name = some res) ↔
      (calls.map Prod.fst).Nodup := by
  constructor
  · intro ends
    rcases represents_or_hasLoop calls with
      ⟨once, -⟩ | ⟨-, inLoop, loop, start, head, inside⟩
    · exact once
    · -- No topic can have a name of one letter more than the array holds.
      obtain ⟨fuel, res, found⟩ :=
        ends (List.replicate (topicNameMaxLength + 1) default)
      rw [TopicList.find?, head, walk?_of_loop loop ?_ inside] at found
      · cases found
      · intro topic
        have short := length_name_le calls topic
        simp only [decide_eq_false_iff_not]
        rintro same
        rw [← same, List.length_replicate] at short
        omega
  · exact fun once name =>
      ⟨calls.length, _, find?_advertiseAll once (Nat.le_refl _) name⟩

end EPuckTavern.MessageBus
