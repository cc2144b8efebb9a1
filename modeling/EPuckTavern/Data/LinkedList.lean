import Mathlib.Logic.Function.Basic

namespace EPuckTavern.Data

/-!
# Nodes linked by pointers

A walk from node to node along a list that ends finds what a search of the
list finds.  Once the pointer of a node of the list is set back to its head,
the nodes up to that one form a loop, and a walk that finds nothing there
never ends.
-/

variable {Node : Type}

/-- The pointers from `head` on go through the nodes, and end. -/
def Linked (next : Node → Option Node) : Option Node → List Node → Prop
  | head, [] => head = none
  | head, node :: rest =>
      head = some node ∧ Linked next (next node) rest

/-- A walk up to the first node wanted; `none` as long as it goes on. -/
def walk?
    (next : Node → Option Node)
    (wanted : Node → Bool) :
    Nat → Option Node → Option (Option Node)
  | _, none => some none
  | 0, some _ => none
  | fuel + 1, some node =>
      if wanted node then
        some (some node)
      else
        walk? next wanted fuel (next node)

/--
With fuel for each node, a walk along a list finds what a search of it finds.
-/
theorem walk?_of_linked
    {next : Node → Option Node}
    {wanted : Node → Bool}
    {fuel : Nat}
    {head : Option Node}
    {nodes : List Node}
    (linked : Linked next head nodes)
    (enough : nodes.length ≤ fuel) :
    walk? next wanted fuel head = some (nodes.find? wanted) := by
  induction nodes generalizing fuel head with
  | nil =>
      cases linked
      cases fuel <;> rfl
  | cons node rest inductionHypothesis =>
      obtain ⟨rfl, linkedRest⟩ := linked
      cases fuel with
      | zero => simp at enough
      | succ fuel =>
          have tail := inductionHypothesis linkedRest (by simpa using enough)
          cases found : wanted node with
          | true => simp [walk?, found]
          | false => simp [walk?, found, tail]

/-- More fuel changes nothing about a walk that has come to its end. -/
theorem walk?_mono
    {next : Node → Option Node}
    {wanted : Node → Bool}
    {fuel more : Nat}
    {head res : Option Node}
    (ended : walk? next wanted fuel head = some res)
    (ordered : fuel ≤ more) :
    walk? next wanted more head = some res := by
  induction fuel generalizing more head with
  | zero =>
      cases head with
      | none => cases more <;> exact ended
      | some node => cases ended
  | succ fuel inductionHypothesis =>
      cases more with
      | zero => exact absurd ordered (Nat.not_succ_le_zero fuel)
      | succ more =>
          cases head with
          | none => exact ended
          | some node =>
              cases found : wanted node with
              | true =>
                  simpa [walk?, found] using ended
              | false =>
                  have rest :
                      walk? next wanted fuel (next node) = some res := by
                    simpa [walk?, found] using ended
                  simpa [walk?, found] using
                    inductionHypothesis rest (Nat.le_of_succ_le_succ ordered)

/-- Other pointers may change. -/
theorem Linked.update
    [DecidableEq Node]
    {next : Node → Option Node}
    {head target : Option Node}
    {node : Node}
    {nodes : List Node}
    (linked : Linked next head nodes)
    (outside : node ∉ nodes) :
    Linked (Function.update next node target) head nodes := by
  induction nodes generalizing head with
  | nil => exact linked
  | cons first rest inductionHypothesis =>
      obtain ⟨same, linkedRest⟩ := linked
      have other : first ≠ node := fun own => outside (own ▸ List.mem_cons_self)
      refine ⟨same, ?_⟩
      rw [Function.update_of_ne other]
      exact inductionHypothesis linkedRest
        fun member => outside (List.mem_cons_of_mem first member)

/-- Nodes whose pointers lead from one of them to another. -/
def Loop
    (next : Node → Option Node)
    (inLoop : Node → Prop) : Prop :=
  ∀ node, inLoop node → ∃ after, next node = some after ∧ inLoop after

/-- A walk in a loop for what is not in it uses up any fuel. -/
theorem walk?_of_loop
    {next : Node → Option Node}
    {wanted : Node → Bool}
    {inLoop : Node → Prop}
    {node : Node}
    (loop : Loop next inLoop)
    (unwanted : ∀ node, wanted node = false)
    (inside : inLoop node)
    (fuel : Nat) :
    walk? next wanted fuel (some node) = none := by
  induction fuel generalizing node with
  | zero => rfl
  | succ fuel inductionHypothesis =>
      obtain ⟨after, linked, stays⟩ := loop node inside
      simp only [walk?, unwanted node, linked, Bool.false_eq_true, if_false]
      exact inductionHypothesis stays

/-- The way from the head of a list to one of its nodes. -/
theorem Linked.exists_way
    {next : Node → Option Node}
    {head : Option Node}
    {node : Node}
    {nodes : List Node}
    (linked : Linked next head nodes)
    (member : node ∈ nodes) :
    ∃ onWay : Node → Prop,
      (∃ start, head = some start ∧ onWay start) ∧
        ∀ other,
          onWay other →
          other = node ∨ ∃ after, next other = some after ∧ onWay after := by
  induction nodes generalizing head with
  | nil => cases member
  | cons first rest inductionHypothesis =>
      obtain ⟨rfl, linkedRest⟩ := linked
      by_cases own : node = first
      · exact ⟨(· = first), ⟨first, rfl, rfl⟩,
          fun other here => .inl (here.trans own.symm)⟩
      · obtain ⟨onWay, ⟨start, linkedStart, startOnWay⟩, leads⟩ :=
          inductionHypothesis linkedRest
            ((List.mem_cons.mp member).resolve_left own)
        refine ⟨fun other => other = first ∨ onWay other,
          ⟨first, rfl, .inl rfl⟩, ?_⟩
        rintro other (rfl | here)
        · exact .inr ⟨start, linkedStart, .inr startOnWay⟩
        · rcases leads other here with own | ⟨after, linkedAfter, stays⟩
          · exact .inl own
          · exact .inr ⟨after, linkedAfter, .inr stays⟩

variable [DecidableEq Node]

/-- To set the pointer of a node of the list to its head makes a loop. -/
theorem Linked.exists_loop
    {next : Node → Option Node}
    {head : Option Node}
    {node : Node}
    {nodes : List Node}
    (linked : Linked next head nodes)
    (member : node ∈ nodes) :
    ∃ inLoop,
      Loop (Function.update next node head) inLoop ∧
        ∃ start, head = some start ∧ inLoop start := by
  obtain ⟨onWay, ⟨start, rfl, startOnWay⟩, leads⟩ :=
    linked.exists_way member
  refine ⟨onWay, fun other here => ?_, start, rfl, startOnWay⟩
  by_cases own : other = node
  · subst own
    exact ⟨start, by simp, startOnWay⟩
  · obtain ⟨after, linkedAfter, stays⟩ := (leads other here).resolve_left own
    exact ⟨after, by simp [own, linkedAfter], stays⟩

/-- A node that is put before a loop leads into it. -/
theorem Loop.insert
    {next : Node → Option Node}
    {inLoop : Node → Prop}
    {start : Node}
    (loop : Loop next inLoop)
    (inside : inLoop start)
    (node : Node) :
    Loop (Function.update next node (some start))
      (fun other => other = node ∨ inLoop other) := by
  intro other here
  by_cases own : other = node
  · subst own
    exact ⟨start, by simp, .inr inside⟩
  · obtain ⟨after, linked, stays⟩ := loop other (here.resolve_left own)
    exact ⟨after, by simp [own, linked], .inr stays⟩

end EPuckTavern.Data
