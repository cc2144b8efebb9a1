import Mathlib.Logic.Function.Basic

namespace EPuckTavern.Data

/-!
# Blocks of memory and the pointers that own them

A program that keeps each block it allocates in one pointer, and empties the
pointer when it gives the block back, loses no block and has no pointer to a
block that is gone.
-/

/-- The allocated blocks with their sizes, and the pointers of a program. -/
structure Store (Slot Block : Type) where
  size : Block → Option Nat
  pointer : Slot → Option Block

variable {Slot Block : Type}

namespace Store

/-- Nothing is allocated, and all pointers are empty. -/
def empty : Store Slot Block where
  size _ := none
  pointer _ := none

variable [DecidableEq Slot] [DecidableEq Block]

/-- A block is given back if the pointer has one, and the pointer emptied. -/
def release
    (store : Store Slot Block)
    (slot : Slot) : Store Slot Block :=
  match store.pointer slot with
  | none => store
  | some block =>
      { size := Function.update store.size block none
        pointer := Function.update store.pointer slot none }

/-- The allocator returns a block that is free, or nothing. -/
def allocate?
    (store : Store Slot Block)
    (slot : Slot)
    (bytes : Nat) : Option Block → Option (Store Slot Block)
  | none =>
      some { store with
        pointer := Function.update store.pointer slot none }
  | some block =>
      if store.size block = none then
        some
          { size := Function.update store.size block (some bytes)
            pointer := Function.update store.pointer slot (some block) }
      else
        none

/-- Every block is in one pointer, and pointers have such blocks only. -/
structure Owned (store : Store Slot Block) : Prop where
  held :
    ∀ block,
      store.size block ≠ none → ∃ slot, store.pointer slot = some block
  allocated :
    ∀ slot block, store.pointer slot = some block → store.size block ≠ none
  apart :
    ∀ first second block,
      store.pointer first = some block →
      store.pointer second = some block →
      first = second

omit [DecidableEq Slot] [DecidableEq Block] in
theorem owned_empty : (empty : Store Slot Block).Owned where
  held _ impossible := (impossible rfl).elim
  allocated _ _ impossible := by cases impossible
  apart _ _ _ impossible := by cases impossible

@[simp] theorem release_pointer_self
    (store : Store Slot Block)
    (slot : Slot) :
    (store.release slot).pointer slot = none := by
  unfold release
  split
  · assumption
  · simp

theorem release_pointer_of_ne
    (store : Store Slot Block)
    {slot other : Slot}
    (different : other ≠ slot) :
    (store.release slot).pointer other = store.pointer other := by
  unfold release
  split
  · rfl
  · simp [different]

/-- What the other pointers have stays allocated. -/
theorem Owned.release_size
    {store : Store Slot Block}
    {slot other : Slot}
    {block : Block}
    (owned : store.Owned)
    (different : other ≠ slot)
    (holds : store.pointer other = some block) :
    (store.release slot).size block = store.size block := by
  unfold Store.release
  split
  · rfl
  · rename_i released here
    have other_block : block ≠ released := fun same =>
      different (owned.apart other slot released (same ▸ holds) here)
    simp [other_block]

/-- Freeing a pointer keeps each block with its one owner. -/
theorem Owned.release
    {store : Store Slot Block}
    (owned : store.Owned)
    (slot : Slot) :
    (store.release slot).Owned := by
  unfold Store.release
  split
  · exact owned
  · rename_i released here
    refine ⟨fun block live => ?_, fun other block holds => ?_,
      fun first second block holds again => ?_⟩
    · have kept : block ≠ released := fun same => by simp [same] at live
      obtain ⟨other, holds⟩ := owned.held block (by simpa [kept] using live)
      have different : other ≠ slot := fun same =>
        kept (Option.some.inj ((same ▸ holds).symm.trans here))
      exact ⟨other, by simpa [different] using holds⟩
    · have different : other ≠ slot := fun same => by simp [same] at holds
      simp only [Function.update_of_ne different] at holds
      have kept : block ≠ released := fun same =>
        different (owned.apart other slot released (same ▸ holds) here)
      simpa [kept] using owned.allocated other block holds
    · have notFirst : first ≠ slot := fun same => by simp [same] at holds
      have notSecond : second ≠ slot := fun same => by simp [same] at again
      simp only [Function.update_of_ne notFirst] at holds
      simp only [Function.update_of_ne notSecond] at again
      exact owned.apart first second block holds again

section Allocating

variable
  {store next : Store Slot Block}
  {slot : Slot}
  {bytes : Nat}
  {outcome : Option Block}

theorem allocate?_pointer_self
    (allocated : store.allocate? slot bytes outcome = some next) :
    next.pointer slot = outcome := by
  cases outcome with
  | none =>
      cases allocated
      simp
  | some block =>
      simp only [allocate?] at allocated
      split at allocated
      · cases allocated
        simp
      · cases allocated

theorem allocate?_pointer_of_ne
    {other : Slot}
    (allocated : store.allocate? slot bytes outcome = some next)
    (different : other ≠ slot) :
    next.pointer other = store.pointer other := by
  cases outcome with
  | none =>
      cases allocated
      simp [different]
  | some block =>
      simp only [allocate?] at allocated
      split at allocated
      · cases allocated
        simp [different]
      · cases allocated

/-- A new block has the size that has been asked for. -/
theorem allocate?_size_self
    {block : Block}
    (allocated : store.allocate? slot bytes (some block) = some next) :
    next.size block = some bytes := by
  simp only [allocate?] at allocated
  split at allocated
  · cases allocated
    simp
  · cases allocated

/-- An allocation does not touch the blocks that are in use. -/
theorem allocate?_size_of_allocated
    {block : Block}
    (allocated : store.allocate? slot bytes outcome = some next)
    (before : store.size block ≠ none) :
    next.size block = store.size block := by
  cases outcome with
  | none =>
      cases allocated
      rfl
  | some fresh =>
      simp only [allocate?] at allocated
      split at allocated
      · rename_i free
        cases allocated
        have old : block ≠ fresh := fun same => before (same ▸ free)
        simp [old]
      · cases allocated

/-- A pointer must be empty before it gets a new block. -/
theorem Owned.allocate?
    (owned : store.Owned)
    (isEmpty : store.pointer slot = none)
    (allocated : store.allocate? slot bytes outcome = some next) :
    next.Owned := by
  cases outcome with
  | none =>
      have same : Function.update store.pointer slot none = store.pointer := by
        rw [← isEmpty, Function.update_eq_self]
      simp only [Store.allocate?, same, Option.some.injEq] at allocated
      exact allocated ▸ owned
  | some fresh =>
      simp only [Store.allocate?] at allocated
      split at allocated
      · rename_i free
        cases allocated
        have unheld : ∀ other, store.pointer other ≠ some fresh :=
          fun other holds => owned.allocated other fresh holds free
        refine ⟨fun block live => ?_, fun other block holds => ?_,
          fun first second block holds again => ?_⟩
        · by_cases same : block = fresh
          · exact ⟨slot, by simp [same]⟩
          · obtain ⟨other, holds⟩ :=
              owned.held block (by simpa [same] using live)
            have different : other ≠ slot := fun own => by
              simp [own, isEmpty] at holds
            exact ⟨other, by simpa [different] using holds⟩
        · by_cases own : other = slot
          · subst own
            simp only [Function.update_self, Option.some.injEq] at holds
            simp [holds]
          · simp only [Function.update_of_ne own] at holds
            have different : block ≠ fresh := fun same =>
              unheld other (same ▸ holds)
            simpa [different] using owned.allocated other block holds
        · by_cases isFirst : first = slot <;> by_cases isSecond : second = slot
          · exact isFirst.trans isSecond.symm
          · subst isFirst
            simp only [Function.update_self, Option.some.injEq] at holds
            simp only [Function.update_of_ne isSecond] at again
            exact (unheld second (holds ▸ again)).elim
          · subst isSecond
            simp only [Function.update_self, Option.some.injEq] at again
            simp only [Function.update_of_ne isFirst] at holds
            exact (unheld first (again ▸ holds)).elim
          · simp only [Function.update_of_ne isFirst] at holds
            simp only [Function.update_of_ne isSecond] at again
            exact owned.apart first second block holds again
      · cases allocated

end Allocating

end Store

end EPuckTavern.Data
