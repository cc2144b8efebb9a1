import EPuckTavern.Platform

namespace EPuckTavern.DetectionLine

/-!
# Detection of a dark line

`detection_line` looks in a line of 640 channel values for a fall below the
mean, then for a rise above it, and starts over behind the rise as long as the
two are too close.  It indexes the image with offsets of its own, so it is
modelled on a memory that also has a value outside of the image.
-/

/-- `IMAGE_BUFFER_SIZE` -/
def imageBufferSize : Nat := 640

/-- `WIDTH_SLOPE` -/
def widthSlope : Nat := 5

/-- `LINE_WIDTH_MIN` -/
def lineWidthMin : Int := 30

/-- The memory around an `image`, by the index that `detection_line` uses. -/
abbrev Memory := Int → UInt8

/-- The loop that adds up the image, in a `uint16_t`. -/
def imageSum (image : Memory) : UInt16 :=
  (List.range imageBufferSize).foldl
    (fun mean index => mean + (image index).toUInt16) 0

/-- `mean /= IMAGE_BUFFER_SIZE` -/
def imageMean (image : Memory) : UInt16 :=
  imageSum image / 640

/-- `image[counter] > mean && image[counter+WIDTH_SLOPE] < mean`. -/
def falls (image : Memory) (mean : UInt16) (counter : Nat) : Bool :=
  (image counter).toUInt16 > mean &&
    (image (counter + widthSlope)).toUInt16 < mean

/-- `image[counter] > mean && image[counter-WIDTH_SLOPE] < mean`. -/
def rises (image : Memory) (mean : UInt16) (counter : Nat) : Bool :=
  (image counter).toUInt16 > mean &&
    (image (counter - widthSlope)).toUInt16 < mean

/--
A search loop with `remaining` values of the counter left: the counter that
met the test, and the counter after the loop.
-/
def search (test : Nat → Bool) : Nat → Nat → Option Nat × Nat
  | 0, counter => (none, counter)
  | remaining + 1, counter =>
      if test counter then
        (some counter, counter + 1)
      else
        search test remaining (counter + 1)

/-- How one round of the do/while loop ends. -/
inductive Round where
  | found
  | notFound
  /-- The line is too small: go on from its end. -/
  | wrongLine (counter : Nat)
  deriving Repr, DecidableEq

/-- One round of the do/while loop, entered with both ends at 0. -/
def round (image : Memory) (mean : UInt16) (counter : Nat) : Round :=
  let (found, counter) :=
    search (falls image mean)
      (imageBufferSize - widthSlope - counter) counter
  let lineBegin := found.getD 0
  if counter < imageBufferSize - widthSlope && lineBegin ≠ 0 then
    let (found, counter) :=
      search (rises image mean) (imageBufferSize - counter) counter
    let lineEnd := found.getD 0
    if counter > imageBufferSize || lineEnd = 0 then
      .notFound
    else if (lineEnd : Int) - lineBegin < lineWidthMin then
      .wrongLine lineEnd
    else
      .found
  else
    .notFound

/-- At most `fuel` rounds of the do/while loop; `none` if it needs more. -/
def rounds? (image : Memory) (mean : UInt16) : Nat → Nat → Option Bool
  | 0, _ => none
  | fuel + 1, counter =>
      match round image mean counter with
      | .found => some true
      | .notFound => some false
      | .wrongLine next => rounds? image mean fuel next

section Termination

/-- A search stops behind the first index that it accepts. -/
theorem search_found
    {test : Nat → Bool}
    {remaining counter found : Nat}
    (isFound : (search test remaining counter).1 = some found) :
    counter ≤ found ∧ found < counter + remaining ∧
      (search test remaining counter).2 = found + 1 := by
  induction remaining generalizing counter with
  | zero => cases isFound
  | succ remaining inductionHypothesis =>
      cases met : test counter with
      | true =>
          simp only [search, met, ↓reduceIte, Option.some.injEq]
            at isFound ⊢
          subst isFound
          exact ⟨Nat.le_refl _, by omega, rfl⟩
      | false =>
          simp only [search, met, Bool.false_eq_true, ↓reduceIte]
            at isFound ⊢
          obtain ⟨above, below, after⟩ := inductionHypothesis isFound
          exact ⟨Nat.le_of_succ_le above, by omega, after⟩

theorem eq_some_of_getD_ne_zero
    {found : Option Nat}
    (isSet : found.getD 0 ≠ 0) :
    found = some (found.getD 0) := by
  cases found with
  | none => exact (isSet rfl).elim
  | some value => rfl

/-- A round that starts over goes on behind its counter, inside the image. -/
theorem round_wrongLine
    {image : Memory}
    {mean : UInt16}
    {counter next : Nat}
    (startsOver : round image mean counter = .wrongLine next) :
    counter < next ∧ next < imageBufferSize := by
  simp only [round] at startsOver
  split at startsOver
  · rename_i entered
    split at startsOver
    · cases startsOver
    · rename_i proper
      split at startsOver
      · cases startsOver
        simp only [Bool.and_eq_true, decide_eq_true_eq, ne_eq,
          decide_not, Bool.not_eq_true', decide_eq_false_iff_not]
          at entered
        simp only [Bool.or_eq_true, decide_eq_true_eq, not_or] at proper
        obtain ⟨beginAbove, -, beginAfter⟩ :=
          search_found (eq_some_of_getD_ne_zero entered.2)
        obtain ⟨endAbove, endBelow, -⟩ :=
          search_found (eq_some_of_getD_ne_zero proper.2)
        have inImage := entered.1
        simp only [imageBufferSize, widthSlope] at *
        omega
      · cases startsOver
  · cases startsOver

/-- Each round moves the counter on, so fuel for each pixel is enough. -/
theorem rounds?_isSome
    {image : Memory}
    {mean : UInt16}
    {fuel counter : Nat}
    (enough : imageBufferSize < counter + fuel) :
    counter ≤ imageBufferSize →
    (rounds? image mean fuel counter).isSome = true := by
  induction fuel generalizing counter with
  | zero =>
      intro inImage
      omega
  | succ fuel inductionHypothesis =>
      intro inImage
      simp only [rounds?]
      split
      · rfl
      · rfl
      · rename_i next startsOver
        obtain ⟨further, inside⟩ := round_wrongLine startsOver
        exact inductionHypothesis (by omega) (Nat.le_of_lt inside)

/-- The do/while loop ends within one round for each index of the image. -/
theorem rounds?_start_isSome
    (image : Memory) :
    (rounds? image (imageMean image) (imageBufferSize + 1) 0).isSome =
      true :=
  rounds?_isSome (by omega) (Nat.zero_le _)

end Termination

/-- `detection_line`. -/
def detectionLine (image : Memory) : Bool :=
  (rounds? image (imageMean image) (imageBufferSize + 1) 0).get
    (rounds?_start_isSome image)

end EPuckTavern.DetectionLine
