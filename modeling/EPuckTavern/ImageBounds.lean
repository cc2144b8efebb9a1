import EPuckTavern.DarkLine

namespace EPuckTavern.DetectionLine

open Data ProcessImage

/-!
# The indices that `detection_line` reads

The same function, with every access to the image checked: `none` is a read
outside of its 640 values.  Where all reads are inside, the checked function
agrees with the unchecked one in any memory.
-/

/-- `image[index]`. -/
def read? (channel : Channel) (index : Int) : Option UInt8 :=
  if 0 ≤ index ∧ index < imageBufferSize then
    some (channel.value index.toNat)
  else
    none

/-- The loop that adds up the image. -/
def imageSum? (channel : Channel) : Option UInt16 :=
  (List.range imageBufferSize).foldlM
    (fun mean (index : Nat) =>
      (read? channel index).map fun value => mean + value.toUInt16)
    0

/-- `image[here] > mean && image[beyond] < mean`, in short-circuit order. -/
def slope?
    (channel : Channel)
    (mean : UInt16)
    (here beyond : Int) : Option Bool :=
  (read? channel here).bind fun value =>
    if value.toUInt16 > mean then
      (read? channel beyond).map fun other => other.toUInt16 < mean
    else
      some false

/-- The test for a begin, with its reads checked. -/
def falls? (channel : Channel) (mean : UInt16) (counter : Nat) : Option Bool :=
  slope? channel mean counter (counter + widthSlope)

/-- The test for an end, with its reads checked. -/
def rises? (channel : Channel) (mean : UInt16) (counter : Nat) : Option Bool :=
  slope? channel mean counter (counter - widthSlope)

/-- A search whose test may read out of bounds. -/
def search? (test? : Nat → Option Bool) :
    Nat → Nat → Option (Option Nat × Nat)
  | 0, counter => some (none, counter)
  | remaining + 1, counter =>
      (test? counter).bind fun met =>
        if met then
          some (some counter, counter + 1)
        else
          search? test? remaining (counter + 1)

/-- One round of the do/while loop. -/
def round? (channel : Channel) (mean : UInt16) (counter : Nat) : Option Round :=
  (search? (falls? channel mean)
      (imageBufferSize - widthSlope - counter) counter).bind
    fun (found, counter) =>
      let lineBegin := found.getD 0
      if counter < imageBufferSize - widthSlope && lineBegin ≠ 0 then
        (search? (rises? channel mean)
            (imageBufferSize - counter) counter).bind
          fun (found, counter) =>
            let lineEnd := found.getD 0
            if counter > imageBufferSize || lineEnd = 0 then
              some .notFound
            else if (lineEnd : Int) - lineBegin < lineWidthMin then
              some (.wrongLine lineEnd)
            else
              some .found
      else
        some .notFound

/-- The do/while loop; `some none` if it needs more rounds than `fuel`. -/
def checkedRounds
    (channel : Channel)
    (mean : UInt16) : Nat → Nat → Option (Option Bool)
  | 0, _ => some none
  | fuel + 1, counter =>
      (round? channel mean counter).bind fun
        | .found => some (some true)
        | .notFound => some (some false)
        | .wrongLine next => checkedRounds channel mean fuel next

/-- `detection_line` with checked reads. -/
def checkedDetectionLine (channel : Channel) : Option (Option Bool) :=
  (imageSum? channel).bind fun sum =>
    checkedRounds channel (sum / 640) (imageBufferSize + 1) 0

namespace Channel

/-- Behind a fall that is not at pixel 0, one of the pixels to 4 is bright. -/
def Overreaches (channel : Channel) : Prop :=
  ¬ channel.Fall 0 ∧
    ∃ first other,
      channel.Fall first ∧ first < other ∧ other < 5 ∧
        channel.mean < (channel.value other).toNat

end Channel

variable {channel : Channel} {outside : Memory}

/-- A read within the image gives its byte. -/
theorem read?_eq
    {index : Int}
    (within : 0 ≤ index)
    (inImage : index < imageBufferSize) :
    read? channel index = some (placed outside channel.value index) := by
  rw [read?, if_pos ⟨within, inImage⟩, placed, if_pos ⟨within, inImage⟩]

/-- A read in front of the image faults. -/
theorem read?_eq_none
    {index : Int}
    (before : index < 0) :
    read? channel index = none :=
  if_neg fun inImage => absurd inImage.1 (Int.not_le.mpr before)

/-- The sum reads within the image. -/
theorem imageSum?_eq
    (outside : Memory) :
    imageSum? channel = some (imageSum (placed outside channel.value)) := by
  have reads :
      ∀ (indices : List Nat) (sum : UInt16),
        (∀ index ∈ indices, index < imageBufferSize) →
        indices.foldlM
            (fun mean (index : Nat) =>
              (read? channel index).map fun value => mean + value.toUInt16)
            sum =
          some (indices.foldl
            (fun mean (index : Nat) =>
              mean + (placed outside channel.value index).toUInt16)
            sum) := by
    intro indices
    induction indices with
    | nil =>
        intro sum inImage
        rfl
    | cons index rest inductionHypothesis =>
        intro sum inImage
        have now := inImage index List.mem_cons_self
        rw [List.foldlM_cons, List.foldl_cons,
          read?_eq (Int.natCast_nonneg _) (Int.ofNat_lt.mpr now)]
        exact inductionHypothesis _ fun later member =>
          inImage later (List.mem_cons_of_mem index member)
  have whole :=
    reads (List.range imageBufferSize) 0
      fun index member => List.mem_range.mp member
  rw [imageSum_eq]
  exact whole

/-- A slope is tested at a second pixel only where the first is bright. -/
theorem slope?_eq
    {mean : UInt16}
    {here beyond : Int}
    (hereWithin : 0 ≤ here ∧ here < imageBufferSize)
    (beyondWithin :
      (placed outside channel.value here).toUInt16 > mean →
        0 ≤ beyond ∧ beyond < imageBufferSize) :
    slope? channel mean here beyond =
      some
        ((placed outside channel.value here).toUInt16 > mean &&
          (placed outside channel.value beyond).toUInt16 < mean) := by
  rw [slope?, read?_eq hereWithin.1 hereWithin.2, Option.bind_some]
  by_cases bright : (placed outside channel.value here).toUInt16 > mean
  · obtain ⟨within, inImage⟩ := beyondWithin bright
    rw [if_pos bright, read?_eq within inImage, decide_eq_true bright,
      Bool.true_and]
    rfl
  · rw [if_neg bright, decide_eq_false bright, Bool.false_and]

/-- The test for a begin reads within the image. -/
theorem falls?_eq
    {counter : Nat}
    (mean : UInt16)
    (inRange : counter < 635) :
    falls? channel mean counter =
      some (falls (placed outside channel.value) mean counter) := by
  refine slope?_eq ⟨by omega, ?_⟩ fun _ => ⟨by omega, ?_⟩ <;>
    simp only [imageBufferSize, widthSlope] <;> omega

section Rises

variable {counter : Nat}

/-- So does each test at its own pixel. -/
theorem readHere?_eq
    (inImage : counter < 640) :
    read? channel counter = some (channel.value counter) := by
  have reads :=
    @read?_eq channel (fun _ => 0) counter (Int.natCast_nonneg _)
      (Int.ofNat_lt.mpr inImage)
  rwa [placed_of_lt inImage] at reads

/-- Behind the first five pixels, and at dark ones among them. -/
theorem rises?_eq
    (inImage : counter < 640)
    (dark :
      counter < 5 → (channel.value counter).toNat ≤ channel.mean) :
    rises? channel (imageMean (placed outside channel.value)) counter =
      some
        (rises (placed outside channel.value)
          (imageMean (placed outside channel.value)) counter) := by
  refine slope?_eq
    ⟨Int.natCast_nonneg _, Int.ofNat_lt.mpr inImage⟩ ?_
  rw [placed_of_lt inImage, gt_imageMean_iff]
  intro bright
  have behind : ¬ counter < 5 := fun inFront =>
    Nat.not_lt.mpr (dark inFront) bright
  simp only [imageBufferSize, widthSlope]
  omega

/-- At a dark pixel the test for an end does not look back. -/
theorem rises?_eq_false
    (inImage : counter < 640)
    (dark : ¬ channel.mean < (channel.value counter).toNat) :
    rises? channel (imageMean (placed outside channel.value)) counter =
      some false := by
  rw [rises?, slope?, readHere?_eq inImage, Option.bind_some,
    if_neg fun bright => dark ((gt_imageMean_iff _).mp bright)]

/-- A bright pixel among the first five is compared with one before them. -/
theorem rises?_eq_none
    (inFront : counter < 5)
    (bright : channel.mean < (channel.value counter).toNat) :
    rises? channel (imageMean (placed outside channel.value)) counter =
      none := by
  have before : (counter : Int) - widthSlope < 0 := by
    simp only [widthSlope]
    omega
  rw [rises?, slope?, readHere?_eq (by omega), Option.bind_some,
    if_pos ((gt_imageMean_iff _).mpr bright), read?_eq_none before,
    Option.map_none]

end Rises

/-- A search is as safe as its test along the way. -/
theorem search?_eq
    {test? : Nat → Option Bool}
    {test : Nat → Bool}
    {remaining counter : Nat}
    (agrees :
      ∀ index, counter ≤ index → index < counter + remaining →
        test? index = some (test index)) :
    search? test? remaining counter =
      some (search test remaining counter) := by
  induction remaining generalizing counter with
  | zero => rfl
  | succ remaining inductionHypothesis =>
      have rest :=
        @inductionHypothesis (counter + 1) fun index within inRange =>
          agrees index (by omega) (by omega)
      rw [search?, agrees counter (Nat.le_refl _) (by omega),
        Option.bind_some, search, rest]
      exact (apply_ite some _ _ _).symm

/-- A search ends outside of the image if it gets to a failing test. -/
theorem search?_eq_none
    {test? : Nat → Option Bool}
    {remaining counter index : Nat}
    (within : counter ≤ index)
    (inRange : index < counter + remaining)
    (fails : test? index = none)
    (goesOn :
      ∀ other, counter ≤ other → other < index →
        test? other = some false) :
    search? test? remaining counter = none := by
  induction remaining generalizing counter with
  | zero => omega
  | succ remaining inductionHypothesis =>
      rw [search?]
      rcases Nat.eq_or_lt_of_le within with rfl | behind
      · rw [fails, Option.bind_none]
      · have rest :=
          inductionHypothesis behind (by omega)
            fun other above before => goesOn other (by omega) before
        rw [goesOn counter (Nat.le_refl _) behind, Option.bind_some, rest]
        rfl

/-- The search for an end from the first fall on stays inside the image. -/
def SafeFrom (channel : Channel) (counter : Nat) : Prop :=
  ∀ first other,
    IsFirst channel.Fall counter first → first ≠ 0 →
    first < other → other < 5 →
    (channel.value other).toNat ≤ channel.mean

/-- Five pixels into the image no search looks in front of it. -/
theorem safeFrom_of_le
    {counter : Nat}
    (behind : 5 ≤ counter) :
    SafeFrom channel counter := by
  intro first other opening nonzero above inFront
  have within := opening.fromStart
  omega

/-- The search for a begin never faults. -/
theorem searchFalls?_eq
    (mean : UInt16)
    (counter : Nat) :
    search? (falls? channel mean)
        (imageBufferSize - widthSlope - counter) counter =
      some
        (search (falls (placed outside channel.value) mean)
          (imageBufferSize - widthSlope - counter) counter) := by
  refine search?_eq fun index within inRange => falls?_eq mean ?_
  simp only [imageBufferSize, widthSlope] at inRange
  omega

/-- A round from a safe pixel is the round of the unchecked code. -/
theorem round?_eq
    {counter : Nat}
    (safe : SafeFrom channel counter) :
    round? channel (imageMean (placed outside channel.value)) counter =
      some
        (round (placed outside channel.value)
          (imageMean (placed outside channel.value)) counter) := by
  have searches :=
    @searchFalls?_eq channel outside
      (imageMean (placed outside channel.value)) counter
  rcases @fall_cases (placed outside channel.value)
      (imageMean (placed outside channel.value)) counter with
    ⟨first, searched, opening⟩ | ⟨after, searched, never⟩
  · rw [searched] at searches
    rw [fallsAt_placed] at opening
    simp only [round?, round, searches, searched, Option.bind_some,
      Option.getD_some]
    by_cases enters :
        (decide (first + 1 < imageBufferSize - widthSlope) &&
          decide (first ≠ 0)) = true
    · have nonzero : first ≠ 0 := by
        simp only [Bool.and_eq_true, decide_eq_true_eq] at enters
        exact enters.2
      have closes :
          search?
              (rises? channel (imageMean (placed outside channel.value)))
              (imageBufferSize - (first + 1)) (first + 1) =
            some
              (search
                (rises (placed outside channel.value)
                  (imageMean (placed outside channel.value)))
                (imageBufferSize - (first + 1)) (first + 1)) := by
        refine search?_eq fun index within inRange => rises?_eq ?_ ?_
        · simp only [imageBufferSize] at inRange
          omega
        · exact safe first index opening nonzero within
      simp only [enters, ↓reduceIte, closes, Option.bind_some]
      split
      · rfl
      · split <;> rfl
    · rw [if_neg enters, if_neg enters]
  · rw [searched] at searches
    simp only [round?, round, searches, searched, Option.bind_some,
      Option.getD_none, ne_eq, not_true_eq_false, decide_false,
      Bool.and_false, Bool.false_eq_true, ↓reduceIte]

/-- The first fall opens a search that begins in front of a bright pixel. -/
theorem round?_eq_none
    {counter first other : Nat}
    (opening : IsFirst channel.Fall counter first)
    (nonzero : first ≠ 0)
    (behind : first < other)
    (inFront : other < 5)
    (bright : channel.mean < (channel.value other).toNat) :
    round? channel (imageMean (placed outside channel.value)) counter =
      none := by
  have searches :=
    @searchFalls?_eq channel outside
      (imageMean (placed outside channel.value)) counter
  rcases @fall_cases (placed outside channel.value)
      (imageMean (placed outside channel.value)) counter with
    ⟨found, searched, isFirst⟩ | ⟨after, searched, never⟩
  · rw [fallsAt_placed] at isFirst
    obtain rfl := isFirst.unique opening
    rw [searched] at searches
    obtain ⟨least, isLeast, notBehind⟩ :=
      @exists_isFirst
        (fun index => channel.mean < (channel.value index).toNat)
        (found + 1) other behind bright
    have inRange :
        least < found + 1 + (imageBufferSize - (found + 1)) := by
      simp only [imageBufferSize]
      omega
    have fails :=
      search?_eq_none isLeast.fromStart inRange
        (@rises?_eq_none channel outside least (by omega) isLeast.meets)
        fun index above before =>
          rises?_eq_false (by omega) (isLeast.earlier above before)
    simp only [round?, searches, Option.bind_some, Option.getD_some]
    rw [if_pos, fails, Option.bind_none]
    simp only [imageBufferSize, widthSlope, Bool.and_eq_true,
      decide_eq_true_eq]
    exact ⟨decide_eq_true (by omega), nonzero⟩
  · rw [fallsAt_placed] at never
    exact (never first opening.fromStart opening.meets).elim

/-- After a restart the search for an end is behind the first pixels. -/
theorem restart_behind
    {counter next : Nat}
    (safe : SafeFrom channel counter)
    (restarts :
      round (placed outside channel.value)
          (imageMean (placed outside channel.value)) counter =
        .wrongLine next) :
    5 ≤ next := by
  have outcome :=
    round_means (placed outside channel.value)
      (imageMean (placed outside channel.value)) counter
  rw [restarts] at outcome
  obtain ⟨first, nonzero, opening, closing, -⟩ := outcome
  rw [fallsAt_placed] at opening
  rw [risesAt_placed] at closing
  by_contra inFront
  have bright : channel.mean < (channel.value next).toNat := by
    rcases closing.meets with rise | stray
    · exact rise.2.2.1
    · exact stray.2.1
  exact Nat.not_lt.mpr
    (safe first next opening nonzero closing.fromStart (by omega)) bright

/-- Run lemma: from a safe counter on the two loops are the same. -/
theorem checkedRounds_eq
    {fuel counter : Nat}
    (safe : SafeFrom channel counter) :
    checkedRounds channel (imageMean (placed outside channel.value))
        fuel counter =
      some
        (rounds? (placed outside channel.value)
          (imageMean (placed outside channel.value)) fuel counter) := by
  induction fuel generalizing counter with
  | zero => rfl
  | succ fuel inductionHypothesis =>
      rw [checkedRounds, round?_eq safe, Option.bind_some, rounds?]
      cases ends :
          round (placed outside channel.value)
            (imageMean (placed outside channel.value)) counter with
      | found => rfl
      | notFound => rfl
      | wrongLine next =>
          exact inductionHypothesis
            (safeFrom_of_le (restart_behind safe ends))

/-- The fall that opens the search may as well be the first one. -/
theorem overreaches_iff :
    channel.Overreaches ↔
      ∃ first other, IsFirst channel.Fall 0 first ∧ first ≠ 0 ∧
        first < other ∧ other < 5 ∧
        channel.mean < (channel.value other).toNat := by
  constructor
  · rintro ⟨noBorder, first, other, fall, behind, inFront, bright⟩
    obtain ⟨least, opening, notBehind⟩ :=
      exists_isFirst (Nat.zero_le first) fall
    have nonzero : least ≠ 0 := by
      rintro rfl
      exact noBorder opening.meets
    exact ⟨least, other, opening, nonzero, by omega, inFront, bright⟩
  · rintro ⟨first, other, opening, nonzero, behind, inFront, bright⟩
    refine ⟨fun border => ?_, first, other, opening.meets, behind, inFront,
      bright⟩
    exact nonzero (Nat.le_zero.mp (opening.le (Nat.le_refl 0) border))

theorem safeFrom_zero
    (inside : ¬ channel.Overreaches) :
    SafeFrom channel 0 := by
  intro first other opening nonzero behind inFront
  by_contra bright
  exact inside (overreaches_iff.mpr
    ⟨first, other, opening, nonzero, behind, inFront,
      Nat.lt_of_not_le bright⟩)

/-- Where its reads are inside, the checked function is `detection_line`. -/
theorem checkedDetectionLine_eq
    (outside : Memory)
    (inside : ¬ channel.Overreaches) :
    checkedDetectionLine channel =
      some (some (detectionLine (placed outside channel.value))) := by
  rw [checkedDetectionLine, imageSum?_eq outside, Option.bind_some]
  refine (checkedRounds_eq (safeFrom_zero inside)).trans
    (congrArg some ?_)
  exact (Option.some_get (rounds?_start_isSome _)).symm

/-- An overreach is a fault of `detection_line`. -/
theorem checkedDetectionLine_eq_none
    (overreaches : channel.Overreaches) :
    checkedDetectionLine channel = none := by
  obtain ⟨first, other, opening, nonzero, behind, inFront, bright⟩ :=
    overreaches_iff.mp overreaches
  have fails :=
    @round?_eq_none channel (fun _ => 0) 0 first other
      opening nonzero behind inFront bright
  rw [checkedDetectionLine, imageSum?_eq fun _ => 0, Option.bind_some]
  exact congrArg (Option.bind · _) fails

/--
For every image of a channel: all reads of `detection_line` are inside of the
image exactly when it does not overreach.
-/
theorem checkedDetectionLine_isSome_iff
    (channel : Channel) :
    (checkedDetectionLine channel).isSome = true ↔
      ¬ channel.Overreaches := by
  by_cases overreaches : channel.Overreaches
  · rw [checkedDetectionLine_eq_none overreaches]
    simp [overreaches]
  · rw [checkedDetectionLine_eq (fun _ => 0) overreaches]
    simp [overreaches]

/-- A fall at pixel 1, and pixel 2 is bright. -/
def brightStart : Channel where
  value index := if index = 0 ∨ (6 ≤ index ∧ index ≤ 40) then 0 else 31
  bounded index _ := by
    split <;> decide

/-- The first test in the search for an end reads `image[-3]`. -/
theorem reads_before_image :
    ¬ ∀ channel : Channel,
      (checkedDetectionLine channel).isSome = true := by
  intro inside
  have mean : brightStart.mean = 29 := by
    rw [mean_of_bright fun index behind => if_neg (by omega)]
    rfl
  have overreaches : brightStart.Overreaches := by
    simp only [Channel.Overreaches, Channel.Fall, mean]
    exact ⟨by decide, 1, 2, by decide, by decide, by decide, by decide⟩
  have reads := inside brightStart
  rw [checkedDetectionLine_eq_none overreaches] at reads
  exact Bool.false_ne_true reads

end EPuckTavern.DetectionLine
