import EPuckTavern.DetectionLine
import EPuckTavern.Data.FirstIndex

namespace EPuckTavern.DetectionLine

open Data

/-!
# The spans that `detection_line` sees

The two search loops find a fall and the first rise behind it, and the outer
loop restarts at the end of a span that is too narrow.  No wide span is lost
that way; but 0 stands for `not found`, so a fall at index 0 ends the search.
-/

/-- A search loop stops at the first index that meets its test. -/
theorem search_cases
    (test : Nat → Bool)
    (remaining counter : Nat) :
    (∃ found,
      search test remaining counter = (some found, found + 1) ∧
        IsFirst (test · = true) counter found ∧
        found < counter + remaining) ∨
      (search test remaining counter = (none, counter + remaining) ∧
        ∀ index, counter ≤ index → index < counter + remaining →
          ¬ test index = true) := by
  induction remaining generalizing counter with
  | zero => exact .inr ⟨rfl, fun index within inRange => by omega⟩
  | succ remaining inductionHypothesis =>
      by_cases met : test counter = true
      · refine .inl ⟨counter, if_pos met, ⟨Nat.le_refl _, met, ?_⟩, ?_⟩
        · exact fun within before => (Nat.not_lt.mpr within before).elim
        · omega
      · have goesOn :
            search test (remaining + 1) counter =
              search test remaining (counter + 1) :=
          if_neg met
        have notHere :
            ∀ {index}, counter ≤ index → ¬ counter + 1 ≤ index →
              ¬ test index = true := by
          intro index within here
          rw [show index = counter by omega]
          exact met
        rw [goesOn]
        rcases inductionHypothesis (counter + 1) with
          ⟨found, searched, first, inRange⟩ | ⟨searched, never⟩
        · refine .inl ⟨found, searched,
            ⟨Nat.le_of_succ_le first.fromStart, first.meets, ?_⟩, by omega⟩
          intro other within before
          by_cases behind : counter + 1 ≤ other
          · exact first.earlier behind before
          · exact notHere within behind
        · refine .inr ⟨by rw [searched, Nat.add_right_comm]; rfl, ?_⟩
          intro index within inRange
          by_cases behind : counter + 1 ≤ index
          · exact never index behind (by omega)
          · exact notHere within behind

/-- A search loop that runs up to `size` finds the first index below it. -/
theorem search_cases_below
    (test : Nat → Bool)
    (size counter : Nat) :
    (∃ found,
      search test (size - counter) counter = (some found, found + 1) ∧
        IsFirst (fun index => index < size ∧ test index = true)
          counter found) ∨
      (search test (size - counter) counter =
          (none, counter + (size - counter)) ∧
        ∀ index, counter ≤ index →
          ¬ (index < size ∧ test index = true)) := by
  rcases search_cases test (size - counter) counter with
    ⟨found, searched, isFirst, inRange⟩ | ⟨searched, never⟩
  · have within := isFirst.fromStart
    exact .inl ⟨found, searched, within, ⟨by omega, isFirst.meets⟩,
      fun above before meets => isFirst.earlier above before meets.2⟩
  · refine .inr ⟨searched, ?_⟩
    rintro index within ⟨inRange, meets⟩
    exact never index within (by omega) meets

section Rounds

variable (image : Memory) (mean : UInt16)

/-- The test for a begin, where the code makes it. -/
def FallsAt (counter : Nat) : Prop :=
  counter < 635 ∧ falls image mean counter = true

/-- The test for an end, where the code makes it. -/
def RisesAt (counter : Nat) : Prop :=
  counter < 640 ∧ rises image mean counter = true

variable {image mean}

/-- The search for a begin finds the first fall, or there is none. -/
theorem fall_cases (counter : Nat) :
    (∃ first,
      search (falls image mean)
          (imageBufferSize - widthSlope - counter) counter =
        (some first, first + 1) ∧
      IsFirst (FallsAt image mean) counter first) ∨
    ∃ after,
      search (falls image mean)
          (imageBufferSize - widthSlope - counter) counter =
        (none, after) ∧
      ∀ index, counter ≤ index → ¬ FallsAt image mean index := by
  rcases search_cases_below (falls image mean)
      (imageBufferSize - widthSlope) counter with found | ⟨searched, never⟩
  · exact .inl found
  · exact .inr ⟨_, searched, never⟩

/-- The search for an end finds the first rise, or there is none. -/
theorem rise_cases (counter : Nat) :
    (∃ last,
      search (rises image mean) (imageBufferSize - counter) counter =
        (some last, last + 1) ∧
      IsFirst (RisesAt image mean) counter last) ∨
    (search (rises image mean) (imageBufferSize - counter) counter =
        (none, counter + (imageBufferSize - counter)) ∧
      ∀ index, counter ≤ index → ¬ RisesAt image mean index) :=
  search_cases_below (rises image mean) imageBufferSize counter

/-- What one round says about the spans behind its counter. -/
def Round.Means
    (image : Memory)
    (mean : UInt16)
    (counter : Nat) : Round → Prop
  | .found =>
      ¬ IsFirst (FallsAt image mean) counter 0 ∧
        HasSpan (FallsAt image mean) (RisesAt image mean) 30 counter
  | .notFound =>
      IsFirst (FallsAt image mean) counter 0 ∨
        ¬ HasSpan (FallsAt image mean) (RisesAt image mean) 30 counter
  | .wrongLine next =>
      ∃ first, first ≠ 0 ∧ IsFirst (FallsAt image mean) counter first ∧
        IsFirst (RisesAt image mean) (first + 1) next ∧
        next < first + 30

/-- The loop is left at once where the first fall opens no search. -/
theorem round_of_no_entry
    {image : Memory}
    {mean : UInt16}
    {counter after : Nat}
    {found : Option Nat}
    (searched :
      search (falls image mean)
        (imageBufferSize - widthSlope - counter) counter = (found, after))
    (stays : after < 635 → found.getD 0 = 0) :
    round image mean counter = .notFound := by
  simp only [round, searched]
  rw [if_neg]
  simp only [imageBufferSize, widthSlope, Bool.and_eq_true, ne_eq,
    decide_not, Bool.not_eq_true', decide_eq_false_iff_not, not_and,
    not_not]
  exact fun inside => stays (of_decide_eq_true inside)

theorem round_of_entry
    {image : Memory}
    {mean : UInt16}
    {counter first : Nat}
    (searched :
      search (falls image mean)
          (imageBufferSize - widthSlope - counter) counter =
        (some first, first + 1))
    (inside : first + 1 < 635)
    (nonzero : first ≠ 0)
    {found : Option Nat}
    {after : Nat}
    (closed :
      search (rises image mean)
        (imageBufferSize - (first + 1)) (first + 1) = (found, after))
    (within : after ≤ 640) :
    round image mean counter =
      if found.getD 0 = 0 then .notFound
      else if found.getD 0 < first + 30 then .wrongLine (found.getD 0)
      else .found := by
  have enters :
      (decide (first + 1 < imageBufferSize - widthSlope) &&
        decide ((some first).getD 0 ≠ 0)) = true := by
    simp [imageBufferSize, widthSlope, inside, nonzero]
  simp only [round, searched]
  rw [if_pos enters]
  simp only [closed, Option.getD_some]
  have bounded : decide (after > imageBufferSize) = false := by
    simp [imageBufferSize, within]
  have narrow :
      ((found.getD 0 : Int) - first < lineWidthMin) =
        (found.getD 0 < first + 30) := by
    simp only [lineWidthMin, eq_iff_iff]
    omega
  simp only [bounded, Bool.false_or, decide_eq_true_eq, narrow]

/-- Step lemma: one round of the do/while loop. -/
theorem round_means
    (image : Memory)
    (mean : UInt16)
    (counter : Nat) :
    (round image mean counter).Means image mean counter := by
  rcases fall_cases counter with
    ⟨first, searched, opening⟩ | ⟨after, searched, never⟩
  · by_cases border : first = 0
    · rw [round_of_no_entry searched fun _ => border]
      exact .inl (border ▸ opening)
    · by_cases inside : first + 1 < 635
      · rcases rise_cases (first + 1) with
          ⟨last, closed, closing⟩ | ⟨closed, never⟩
        · have nonzero : last ≠ 0 := by
            have behind := closing.fromStart
            omega
          rw [round_of_entry searched inside border closed closing.meets.1]
          simp only [Option.getD_some, nonzero, ↓reduceIte]
          by_cases narrow : last < first + 30
          · rw [if_pos narrow]
            exact ⟨first, border, opening, closing, narrow⟩
          · rw [if_neg narrow]
            exact ⟨fun atBorder => border (opening.unique atBorder),
              first, last, opening.fromStart, opening.meets, closing,
              Nat.le_of_not_lt narrow⟩
        · rw [round_of_entry searched inside border closed
            (by simp only [imageBufferSize]; omega)]
          exact .inr (not_hasSpan_of_no_close opening
            fun other behind => never other behind)
      · rw [round_of_no_entry searched fun below => (inside below).elim]
        -- A span from here would end outside of the image.
        refine .inr ?_
        rintro ⟨otherFirst, otherLast, behind, span⟩
        have notBefore := opening.le behind span.opened
        have wide := span.wide
        have inRange := span.closed.meets.1
        omega
  · rw [round_of_no_entry searched fun _ => rfl]
    refine .inr ?_
    rintro ⟨first, last, behind, span⟩
    exact never first behind span.opened

/-- Run lemma: the rounds find a span exactly when there is one. -/
theorem rounds?_eq_some
    {image : Memory}
    {mean : UInt16}
    {fuel counter : Nat}
    {result : Bool}
    (ran : rounds? image mean fuel counter = some result)
    (noBorder : ¬ IsFirst (FallsAt image mean) counter 0) :
    result = true ↔
      HasSpan (FallsAt image mean) (RisesAt image mean) 30 counter := by
  induction fuel generalizing counter with
  | zero => cases ran
  | succ fuel inductionHypothesis =>
      have outcome := round_means image mean counter
      simp only [rounds?] at ran
      cases ends : round image mean counter with
      | found =>
          rw [ends] at ran outcome
          cases ran
          exact iff_of_true rfl outcome.2
      | notFound =>
          rw [ends] at ran outcome
          cases ran
          exact iff_of_false Bool.false_ne_true
            (outcome.resolve_left noBorder)
      | wrongLine next =>
          rw [ends] at ran outcome
          obtain ⟨first, -, opening, closing, narrow⟩ := outcome
          rw [hasSpan_skip opening closing narrow]
          refine inductionHypothesis ran fun border => ?_
          have behind := closing.fromStart
          have atZero := border.fromStart
          omega

theorem detectionLine_eq_true_iff
    (image : Memory) :
    detectionLine image = true ↔
      ¬ FallsAt image (imageMean image) 0 ∧
        HasSpan (FallsAt image (imageMean image))
          (RisesAt image (imageMean image)) 30 0 := by
  have ran :
      rounds? image (imageMean image) (imageBufferSize + 1) 0 =
        some (detectionLine image) :=
    (Option.some_get (rounds?_start_isSome image)).symm
  by_cases border : FallsAt image (imageMean image) 0
  · have first : IsFirst (FallsAt image (imageMean image)) 0 0 :=
      ⟨Nat.le_refl 0, border,
        fun _ before => (Nat.not_lt_zero _ before).elim⟩
    have outcome := round_means image (imageMean image) 0
    simp only [rounds?] at ran
    cases ends : round image (imageMean image) 0 with
    | notFound =>
        rw [ends] at ran
        rw [← Option.some.inj ran]
        simp [border]
    | found =>
        rw [ends] at outcome
        exact (outcome.1 first).elim
    | wrongLine next =>
        rw [ends] at outcome
        obtain ⟨other, nonzero, opening, -⟩ := outcome
        exact (nonzero (opening.unique first)).elim
  · have noBorder : ¬ IsFirst (FallsAt image (imageMean image)) 0 0 :=
      fun first => border first.meets
    rw [rounds?_eq_some ran noBorder]
    simp [border]

end Rounds

end EPuckTavern.DetectionLine
