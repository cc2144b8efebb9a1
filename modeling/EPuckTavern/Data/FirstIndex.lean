import Mathlib.Data.Nat.Find

namespace EPuckTavern.Data

/-!
# First indices, and pairs of them

A scan stops at the first index that meets a test.  Two scans after one
another find an opening index and the first closing index behind it, a span.
Where the span that begins at the first opening index is too narrow, the
search for a wide one may go on from its last index: a span that opens before
that index closes there too, and is narrower still.
-/

/-- `index` is the first one from `start` on that meets `test`. -/
structure IsFirst
    (test : Nat → Prop)
    (start index : Nat) : Prop where
  fromStart : start ≤ index
  meets : test index
  earlier : ∀ {other}, start ≤ other → other < index → ¬ test other

/-- The first index is not above any other that meets the test. -/
theorem IsFirst.le
    {test : Nat → Prop}
    {start index other : Nat}
    (first : IsFirst test start index)
    (within : start ≤ other)
    (meets : test other) :
    index ≤ other :=
  Nat.le_of_not_lt fun before => first.earlier within before meets

/-- It is also the first one from any later start that it lies behind. -/
theorem IsFirst.later
    {test : Nat → Prop}
    {start later index : Nat}
    (first : IsFirst test start index)
    (ordered : start ≤ later)
    (within : later ≤ index) :
    IsFirst test later index where
  fromStart := within
  meets := first.meets
  earlier above := first.earlier (Nat.le_trans ordered above)

/-- There is one first index. -/
theorem IsFirst.unique
    {test : Nat → Prop}
    {start index other : Nat}
    (first : IsFirst test start index)
    (second : IsFirst test start other) :
    index = other :=
  Nat.le_antisymm
    (first.le second.fromStart second.meets)
    (second.le first.fromStart first.meets)

/-- What meets the test has a first one in front of it, or is the first. -/
theorem exists_isFirst
    {test : Nat → Prop}
    {start other : Nat}
    (within : start ≤ other)
    (meets : test other) :
    ∃ index, IsFirst test start index ∧ index ≤ other := by
  classical
  have exists_from : ∃ index, start ≤ index ∧ test index :=
    ⟨other, within, meets⟩
  obtain ⟨fromStart, found⟩ := Nat.find_spec exists_from
  refine ⟨Nat.find exists_from, ⟨fromStart, found, ?_⟩,
    Nat.find_min' exists_from ⟨within, meets⟩⟩
  exact fun above before met =>
    Nat.find_min exists_from before ⟨above, met⟩

variable {opens closes : Nat → Prop} {width start first last : Nat}

/-- From an opening index to the first closing one, `width` apart at least. -/
structure Span
    (opens closes : Nat → Prop)
    (width first last : Nat) : Prop where
  opened : opens first
  closed : IsFirst closes (first + 1) last
  wide : first + width ≤ last

/-- Some span begins at `start` or behind it. -/
def HasSpan
    (opens closes : Nat → Prop)
    (width start : Nat) : Prop :=
  ∃ first last, start ≤ first ∧ Span opens closes width first last

theorem HasSpan.mono
    {later : Nat}
    (hasSpan : HasSpan opens closes width later)
    (ordered : start ≤ later) :
    HasSpan opens closes width start := by
  obtain ⟨first, last, behind, span⟩ := hasSpan
  exact ⟨first, last, Nat.le_trans ordered behind, span⟩

/-- A narrow span at the first opening index may be skipped altogether. -/
theorem hasSpan_skip
    (opening : IsFirst opens start first)
    (closing : IsFirst closes (first + 1) last)
    (narrow : last < first + width) :
    HasSpan opens closes width start ↔
      HasSpan opens closes width last := by
  constructor
  · rintro ⟨otherFirst, otherLast, behind, span⟩
    have notBefore := opening.le behind span.opened
    refine ⟨otherFirst, otherLast, ?_, span⟩
    by_contra inside
    -- The other span opens inside the narrow one, so it closes with it.
    have same : otherLast = last :=
      span.closed.unique
        (closing.later (Nat.succ_le_succ notBefore)
          (Nat.lt_of_not_le inside))
    have wide := span.wide
    omega
  · intro hasSpan
    have ahead := opening.fromStart
    have behind := closing.fromStart
    exact hasSpan.mono (by omega)

/-- Without a closing index behind the first opening one there is no span. -/
theorem not_hasSpan_of_no_close
    (opening : IsFirst opens start first)
    (never : ∀ other, first < other → ¬ closes other) :
    ¬ HasSpan opens closes width start := by
  rintro ⟨otherFirst, otherLast, behind, span⟩
  have notBefore := opening.le behind span.opened
  have above := span.closed.fromStart
  exact never otherLast (by omega) span.closed.meets

end EPuckTavern.Data
