import Mathlib.Data.UInt
import Mathlib.Algebra.Order.BigOperators.Group.List
import Mathlib.Algebra.Order.Ring.Nat
import Mathlib.Algebra.Group.Action.Defs

namespace EPuckTavern.Data

/-!
# Sums in a 16-bit accumulator

An accumulator of 16 bits holds the exact sum modulo 2^16, whatever the
order of the additions, and hence the exact sum as long as that fits.
-/

variable {α : Type}

/-- The sum without wrap-around. -/
def exactSum (word : α → UInt16) (items : List α) : Nat :=
  (items.map fun item => (word item).toNat).sum

@[simp] theorem exactSum_cons
    (word : α → UInt16)
    (item : α)
    (rest : List α) :
    exactSum word (item :: rest) =
      (word item).toNat + exactSum word rest :=
  rfl

theorem exactSum_perm
    {word : α → UInt16}
    {items others : List α}
    (permuted : items.Perm others) :
    exactSum word items = exactSum word others :=
  (permuted.map _).sum_eq

/-- Words that are bounded have a bounded sum. -/
theorem exactSum_le
    {word : α → UInt16}
    {items : List α}
    {bound : Nat}
    (bounded : ∀ item ∈ items, (word item).toNat ≤ bound) :
    exactSum word items ≤ items.length * bound := by
  have sum_le :=
    List.sum_le_card_nsmul
      (items.map fun item => (word item).toNat) bound
      (List.forall_mem_map.mpr bounded)
  rwa [List.length_map, smul_eq_mul] at sum_le

/-- The sum of one value over a list. -/
theorem constant_sum
    (items : List α)
    (value : Nat) :
    (items.map fun _ => value).sum = items.length * value := by
  rw [List.map_const', List.sum_replicate, smul_eq_mul]

/-- One of the words is at most the floor of their mean. -/
theorem exists_le_mean
    {word : α → UInt16}
    {items : List α}
    (nonempty : items ≠ []) :
    ∃ item ∈ items,
      (word item).toNat ≤ exactSum word items / items.length := by
  have positive := List.length_pos_iff.mpr nonempty
  have below :
      (items.map fun item => (word item).toNat).sum <
        (items.map fun _ => exactSum word items / items.length + 1).sum := by
    rw [constant_sum]
    exact Nat.lt_mul_div_succ _ positive
  obtain ⟨item, member, less⟩ := List.exists_lt_of_sum_lt _ _ below
  exact ⟨item, member, Nat.le_of_lt_succ less⟩

/-- One of the words is at least the floor of their mean. -/
theorem exists_mean_le
    {word : α → UInt16}
    {items : List α}
    (nonempty : items ≠ []) :
    ∃ item ∈ items,
      exactSum word items / items.length ≤ (word item).toNat := by
  refine List.exists_le_of_sum_le nonempty _ _ ?_
  rw [constant_sum]
  exact Nat.mul_div_le _ _

/-- From `start` on every index adds the same. -/
theorem exactSum_range_of_constant
    {word : Nat → UInt16}
    {value : UInt16}
    {start stop : Nat}
    (constant : ∀ index, start ≤ index → word index = value)
    (ordered : start ≤ stop) :
    exactSum word (List.range stop) =
      exactSum word (List.range start) + (stop - start) * value.toNat := by
  induction stop, ordered using Nat.le_induction with
  | base => simp
  | succ stop ordered inductionHypothesis =>
      have last :
          exactSum word (List.range (stop + 1)) =
            exactSum word (List.range stop) + value.toNat := by
        rw [List.range_succ, exactSum, List.map_append, List.sum_append,
          List.map_singleton, List.sum_singleton, constant stop ordered]
        rfl
      rw [last, inductionHypothesis, Nat.succ_sub ordered, Nat.succ_mul,
        Nat.add_assoc]

/-- A sum of words is the exact sum modulo their range, wherever it wraps. -/
theorem toNat_foldl_add
    (word : α → UInt16)
    (items : List α)
    (start : UInt16) :
    (items.foldl (fun sum item => sum + word item) start).toNat =
      (start.toNat + exactSum word items) % 2 ^ 16 := by
  induction items generalizing start with
  | nil =>
      exact (Nat.mod_eq_of_lt start.toNat_lt).symm
  | cons item rest inductionHypothesis =>
      rw [List.foldl_cons, inductionHypothesis, UInt16.toNat_add,
        exactSum_cons, Nat.mod_add_mod, Nat.add_assoc]

end EPuckTavern.Data
