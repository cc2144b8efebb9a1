import Mathlib.Data.List.Rotate
import Mathlib.Data.List.Perm.Basic

namespace EPuckTavern.Data

/-!
# A ring of the most recent samples

A fixed number of cells and a write index: `push` overwrites the cell at the
index and moves the index on, so the cells always hold the last samples in a
rotated order.  The abstract content is `newest`, the samples from the last
one back.  Two results are used throughout:

* pushing the same samples makes two rings agree on them, whatever they held;
* a fold that does not depend on the order sees only `newest`, so rings that
  agree on all their samples are indistinguishable to it.
-/

/-- Cells that are overwritten in circular order. -/
structure RingBuffer (α : Type) (size : Nat) where
  cells : List α
  index : Nat
  full : cells.length = size
  bounded : index < size
  deriving DecidableEq

namespace RingBuffer

variable {α : Type} {size : Nat}

/-- A ring with one value in each cell. -/
def fill (value : α) (positive : 0 < size) : RingBuffer α size where
  cells := List.replicate size value
  index := 0
  full := List.length_replicate
  bounded := positive

/-- Overwrite the cell at the index and advance the index, modulo the size. -/
def push (ring : RingBuffer α size) (sample : α) : RingBuffer α size where
  cells := ring.cells.set ring.index sample
  index := (ring.index + 1) % size
  full := by rw [List.length_set, ring.full]
  bounded := Nat.mod_lt _ (Nat.zero_lt_of_lt ring.bounded)

/-- The samples in the cells, the last one first. -/
def newest (ring : RingBuffer α size) : List α :=
  (ring.cells.rotate ring.index).reverse

theorem newest_length
    (ring : RingBuffer α size) :
    ring.newest.length = size := by
  rw [newest, List.length_reverse, List.length_rotate, ring.full]

/-- In another order the recent items are the cells. -/
theorem cells_perm_newest
    (ring : RingBuffer α size) :
    ring.cells.Perm ring.newest :=
  ((List.reverse_perm _).trans (List.rotate_perm _ _)).symm

/-- The cells before the index, the oldest one at it, and those after it. -/
theorem exists_split
    (ring : RingBuffer α size) :
    ∃ before oldest after,
      ring.cells = before ++ oldest :: after ∧
        before.length = ring.index := by
  have inRange : ring.index < ring.cells.length := by
    rw [ring.full]
    exact ring.bounded
  refine ⟨ring.cells.take ring.index, ring.cells[ring.index],
    ring.cells.drop (ring.index + 1), ?_, ?_⟩
  · rw [List.getElem_cons_drop, List.take_append_drop]
  · exact List.length_take_of_le (Nat.le_of_lt inRange)

/-- Pushing a sample drops the oldest one. -/
theorem newest_push
    (ring : RingBuffer α size)
    (sample : α) :
    (ring.push sample).newest = sample :: ring.newest.dropLast := by
  obtain ⟨before, oldest, after, split, here⟩ := ring.exists_split
  have written :
      ring.cells.set ring.index sample = before ++ sample :: after := by
    rw [split, ← here, List.set_append_right _ _ (Nat.le_refl _)]
    simp
  have rotated :
      ring.cells.rotate ring.index = oldest :: after ++ before := by
    rw [split, ← here, List.rotate_append_length_eq]
  have advanced :
      (ring.push sample).cells.rotate (ring.push sample).index =
        after ++ (before ++ [sample]) := by
    have length :
        (before ++ [sample] ++ after).length = size := by
      rw [← ring.full, split]
      simp
    have index : ring.index + 1 = (before ++ [sample]).length := by
      rw [← here, List.length_append]
      rfl
    have cells :
        (ring.push sample).cells = before ++ [sample] ++ after := by
      rw [List.append_assoc]
      exact written
    calc (ring.push sample).cells.rotate (ring.push sample).index
        = (before ++ [sample] ++ after).rotate
            ((ring.index + 1) % (before ++ [sample] ++ after).length) := by
          rw [cells, length]
          rfl
      _ = (before ++ [sample] ++ after).rotate
            (before ++ [sample]).length := by
          rw [List.rotate_mod, index]
      _ = after ++ (before ++ [sample]) :=
          List.rotate_append_length_eq _ _
  rw [newest, newest, advanced, rotated]
  simp

/-- A filled ring holds nothing but its value. -/
theorem newest_fill
    (value : α)
    (positive : 0 < size) :
    (fill value positive).newest = List.replicate size value := by
  rw [newest, fill, List.rotate_zero, List.reverse_replicate]

/-- Pushing samples slides the window over them, the last one first. -/
theorem newest_foldl_push
    (samples : List α)
    (ring : RingBuffer α size) :
    (samples.foldl push ring).newest =
      (samples.reverse ++ ring.newest).take size := by
  induction samples generalizing ring with
  | nil =>
      exact (List.take_of_length_le ring.newest_length.le).symm
  | cons sample rest inductionHypothesis =>
      have split :
          rest.reverse ++ sample :: ring.newest =
            (rest.reverse ++ sample :: ring.newest.dropLast) ++
              ring.newest.drop (ring.newest.length - 1) := by
        rw [List.dropLast_eq_take, List.append_assoc, List.cons_append,
          List.take_append_drop]
      have enough :
          size ≤
            (rest.reverse ++ sample :: ring.newest.dropLast).length := by
        rw [List.length_append, List.length_cons, List.length_dropLast,
          newest_length]
        omega
      -- The sample that drops out lies behind a full window.
      rw [List.foldl_cons, inductionHypothesis, newest_push,
        List.reverse_cons, List.append_assoc, List.singleton_append, split,
        List.take_append_of_le_length enough]

/-- A ring that starts full of one value has it for the missing samples. -/
theorem newest_foldl_push_fill
    (samples : List α)
    (value : α)
    (positive : 0 < size) :
    (samples.foldl push (fill value positive)).newest =
      (samples.reverse ++ List.replicate size value).take size := by
  rw [newest_foldl_push, newest_fill]

/-- Two rings agree on their last `count` samples. -/
def Agree (count : Nat) (ring other : RingBuffer α size) : Prop :=
  ring.newest.take count = other.newest.take count

theorem Agree.refl
    (count : Nat)
    (ring : RingBuffer α size) :
    Agree count ring ring :=
  rfl

theorem agree_zero
    (ring other : RingBuffer α size) :
    Agree 0 ring other :=
  rfl

/-- One more sample that both rings receive is one more they agree on. -/
theorem Agree.push
    {count : Nat}
    {ring other : RingBuffer α size}
    (agree : Agree count ring other)
    (sample : α) :
    Agree (count + 1) (ring.push sample) (other.push sample) := by
  have dropped :
      ring.newest.dropLast.take count = other.newest.dropLast.take count := by
    rw [List.dropLast_eq_take, List.dropLast_eq_take, List.take_take,
      List.take_take, newest_length, newest_length, Nat.min_comm,
      ← List.take_take, ← List.take_take, agree]
  rw [Agree, newest_push, newest_push, List.take_succ_cons,
    List.take_succ_cons, dropped]

theorem Agree.mono
    {fewer more : Nat}
    {ring other : RingBuffer α size}
    (agree : Agree more ring other)
    (ordered : fewer ≤ more) :
    Agree fewer ring other := by
  have narrowed := congrArg (List.take fewer) agree
  rwa [List.take_take, List.take_take, Nat.min_eq_left ordered] at narrowed

/-- Rings that agree on as many samples as they have cells agree on all. -/
theorem Agree.newest_eq
    {count : Nat}
    {ring other : RingBuffer α size}
    (agree : Agree count ring other)
    (enough : size ≤ count) :
    ring.newest = other.newest := by
  have wholeRing := List.take_of_length_le (ring.newest_length.trans_le enough)
  have wholeOther :=
    List.take_of_length_le (other.newest_length.trans_le enough)
  rw [← wholeRing, ← wholeOther]
  exact agree

/-- Rings with the same recent items have the same cells in some order. -/
theorem cells_perm_of_newest_eq
    {ring other : RingBuffer α size}
    (same : ring.newest = other.newest) :
    ring.cells.Perm other.cells :=
  (same ▸ ring.cells_perm_newest).trans other.cells_perm_newest.symm

/-- A fold whose steps commute depends on the newest samples alone. -/
theorem foldl_cells_congr
    {β : Type}
    {ring other : RingBuffer α size}
    (combine : β → α → β)
    [RightCommutative combine]
    (same : ring.newest = other.newest)
    (start : β) :
    ring.cells.foldl combine start = other.cells.foldl combine start :=
  (cells_perm_of_newest_eq same).foldl_eq start

theorem countP_cells_congr
    {ring other : RingBuffer α size}
    (same : ring.newest = other.newest)
    (selects : α → Bool) :
    ring.cells.countP selects = other.cells.countP selects :=
  (cells_perm_of_newest_eq same).countP_eq selects

end RingBuffer

end EPuckTavern.Data
