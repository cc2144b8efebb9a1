import EPuckTavern.ProcessImage
import EPuckTavern.DetectionSpans
import EPuckTavern.Data.WordSum

namespace EPuckTavern.DetectionLine

open Data ProcessImage

/-!
# What a dark line is, and which ones `detection_line` finds

A line of a channel is a fall below the mean with the first rise above it
behind, at least `LINE_WIDTH_MIN` apart.  `detection_line` loses lines at the
left border only: a fall at pixel 0 counts as none, and behind a fall at one
of the pixels 1 to 3 the search for the end compares pixels with the memory in
front of the image.
-/

/-- The values of one colour channel, five bits each. -/
structure Channel where
  value : Nat → UInt8
  bounded : ∀ index < imageBufferSize, value index ≤ 31

/-- The two channels that `ProcessImage` takes apart. -/
def Channel.rouge (frame : Frame) : Channel where
  value := imageRouge frame
  bounded index _ := by
    simp only [imageRouge, UInt8.le_iff_toNat_le, UInt8.toNat_shiftRight,
      Nat.shiftRight_eq_div_pow]
    have inByte := (frame (2 * index)).toNat_lt
    change (frame (2 * index)).toNat / 8 ≤ 31
    omega

/-- The blue channel of a frame. -/
def Channel.bleu (frame : Frame) : Channel where
  value := imageBleu frame
  bounded index _ := by
    rw [imageBleu, UInt8.le_iff_toNat_le, UInt8.toNat_and]
    exact Nat.and_le_right

namespace Channel

variable (channel : Channel)

/-- `m`, the floor of the exact mean. -/
def mean : Nat :=
  exactSum (fun index => (channel.value index).toUInt16)
    (List.range imageBufferSize) / imageBufferSize

/-- The image falls below its mean within five pixels from here. -/
def Fall (first : Nat) : Prop :=
  first ≤ 634 ∧ channel.mean < (channel.value first).toNat ∧
    (channel.value (first + 5)).toNat < channel.mean

/-- The image has risen above its mean within the last five pixels. -/
def Rise (last : Nat) : Prop :=
  5 ≤ last ∧ last ≤ 639 ∧ channel.mean < (channel.value last).toNat ∧
    (channel.value (last - 5)).toNat < channel.mean

/-- A dark line, from its fall to the first rise behind it. -/
abbrev Line (first last : Nat) : Prop :=
  Span channel.Fall channel.Rise 30 first last

/-- There is a dark line in the image. -/
def HasLine : Prop :=
  ∃ first last, channel.Line first last

/-- Pixel `last` is bright, and a byte in front of the image is dark. -/
def StrayRise (outside : Memory) (last : Nat) : Prop :=
  last < 5 ∧ channel.mean < (channel.value last).toNat ∧
    (outside (last - 5)).toNat < channel.mean

end Channel

section Image

variable {channel : Channel} {outside : Memory}

/-- Inside the array its bytes are those of the channel. -/
theorem placed_of_lt
    {index : Nat}
    (inImage : index < imageBufferSize) :
    placed outside channel.value index = channel.value index := by
  rw [placed, if_pos ⟨Int.natCast_nonneg _, Int.ofNat_lt.mpr inImage⟩]
  rfl

theorem placed_of_neg
    {index : Int}
    (before : index < 0) :
    placed outside channel.value index = outside index :=
  if_neg fun inImage => absurd inImage.1 (Int.not_le.mpr before)

/-- The sum of a channel fits `uint16_t`. -/
theorem exactSum_lt :
    exactSum (fun index => (channel.value index).toUInt16)
      (List.range imageBufferSize) < 2 ^ 16 := by
  have bounded :
      ∀ index ∈ List.range imageBufferSize,
        (channel.value index).toUInt16.toNat ≤ 31 := by
    intro index member
    rw [UInt8.toNat_toUInt16]
    exact UInt8.le_iff_toNat_le.mp
      (channel.bounded index (List.mem_range.mp member))
  have sum_le := exactSum_le bounded
  rw [List.length_range] at sum_le
  exact Nat.lt_of_le_of_lt sum_le (by decide)

/-- The loop reads the pixels at the indices of the image in their order. -/
theorem imageSum_eq
    (image : Memory) :
    imageSum image =
      (List.range imageBufferSize).foldl
        (fun mean (index : Nat) => mean + (image index).toUInt16) 0 := by
  simp only [imageSum, List.bind_eq_flatMap, List.pure_def,
    ← List.map_eq_flatMap, List.foldl_map]

/-- `image_mean` is the mean of the channel: the sum does not wrap. -/
theorem toNat_imageMean :
    (imageMean (placed outside channel.value)).toNat = channel.mean := by
  have same :
      exactSum
          (fun index : Nat =>
            (placed outside channel.value index).toUInt16)
          (List.range imageBufferSize) =
        exactSum (fun index => (channel.value index).toUInt16)
          (List.range imageBufferSize) := by
    refine congrArg List.sum (List.map_congr_left fun index member => ?_)
    simp only [placed_of_lt (List.mem_range.mp member)]
  rw [imageMean, imageSum_eq, UInt16.toNat_div, toNat_foldl_add, same,
    UInt16.toNat_zero, Nat.zero_add, Nat.mod_eq_of_lt exactSum_lt]
  rfl

theorem gt_imageMean_iff
    (value : UInt8) :
    value.toUInt16 > imageMean (placed outside channel.value) ↔
      channel.mean < value.toNat := by
  rw [gt_iff_lt, UInt16.lt_iff_toNat_lt, toNat_imageMean,
    UInt8.toNat_toUInt16]

theorem lt_imageMean_iff
    (value : UInt8) :
    value.toUInt16 < imageMean (placed outside channel.value) ↔
      value.toNat < channel.mean := by
  rw [UInt16.lt_iff_toNat_lt, toNat_imageMean, UInt8.toNat_toUInt16]

/-- The test for a begin is the fall of the channel. -/
theorem fallsAt_iff
    {first : Nat} :
    FallsAt (placed outside channel.value)
        (imageMean (placed outside channel.value)) first ↔
      channel.Fall first := by
  have inRange : first < 635 ↔ first ≤ 634 := by omega
  rw [FallsAt, Channel.Fall, inRange, and_congr_right_iff]
  intro bounded
  have here :=
    @placed_of_lt channel outside first
      (by simp only [imageBufferSize]; omega)
  have ahead :=
    @placed_of_lt channel outside (first + widthSlope)
      (by simp only [imageBufferSize, widthSlope]; omega)
  rw [Int.natCast_add] at ahead
  simp only [falls, here, ahead, Bool.and_eq_true, decide_eq_true_eq,
    gt_imageMean_iff, lt_imageMean_iff]
  rfl

/--
The test for an end is the rise of the channel, or a stray one of the memory.
-/
theorem risesAt_iff
    {last : Nat} :
    RisesAt (placed outside channel.value)
        (imageMean (placed outside channel.value)) last ↔
      channel.Rise last ∨ channel.StrayRise outside last := by
  simp only [RisesAt, rises, Bool.and_eq_true, decide_eq_true_eq,
    gt_imageMean_iff, lt_imageMean_iff]
  by_cases inImage : last < imageBufferSize
  · rw [placed_of_lt inImage]
    simp only [imageBufferSize] at inImage
    by_cases inFront : last < 5
    · have before : (last : Int) - widthSlope < 0 := by
        simp only [widthSlope]
        omega
      rw [placed_of_neg before]
      have noRise : ¬ channel.Rise last := fun rise => by
        have above := rise.1
        omega
      simp only [inImage, noRise, Channel.StrayRise, inFront, true_and,
        false_or]
      rfl
    · have behind : (last : Int) - widthSlope = (last - 5 : Nat) := by
        simp only [widthSlope]
        omega
      have reads :=
        @placed_of_lt channel outside (last - 5)
          (by simp only [imageBufferSize]; omega)
      rw [behind, reads]
      simp only [inImage, Channel.Rise, Channel.StrayRise, inFront,
        Nat.le_of_not_lt inFront, true_and, false_and, or_false,
        show last ≤ 639 by omega]
  · simp only [imageBufferSize] at inImage
    have noRise : ¬ channel.Rise last := fun rise => by
      have inRange := rise.2.1
      omega
    have noStray : ¬ channel.StrayRise outside last := fun stray => by
      have inFront := stray.1
      omega
    simp only [inImage, noRise, noStray, false_and, or_false]

/-- The spans that `detection_line` sees are the lines free of strays. -/
theorem span_iff
    {first last : Nat} :
    Span channel.Fall
        (fun index => channel.Rise index ∨ channel.StrayRise outside index)
        30 first last ↔
      channel.Line first last ∧
        ∀ other, first < other → ¬ channel.StrayRise outside other := by
  constructor
  · rintro ⟨opened, ⟨behind, closes, earlier⟩, wide⟩
    have farFromFront : ¬ channel.StrayRise outside last := fun stray => by
      have inFront := stray.1
      omega
    refine ⟨⟨opened, ⟨behind, closes.resolve_right farFromFront, ?_⟩, wide⟩,
      ?_⟩
    · exact fun above before rise => earlier above before (.inl rise)
    · intro other above stray
      have inFront := stray.1
      exact earlier above (by omega) (.inr stray)
  · rintro ⟨⟨opened, ⟨behind, closes, earlier⟩, wide⟩, noStray⟩
    refine ⟨opened, ⟨behind, .inl closes, ?_⟩, wide⟩
    rintro other above before (rise | stray)
    · exact earlier above before rise
    · exact noStray other above stray

/-- As predicates, the test for a begin and the fall are the same. -/
theorem fallsAt_placed :
    FallsAt (placed outside channel.value)
        (imageMean (placed outside channel.value)) =
      channel.Fall :=
  funext fun _ => propext fallsAt_iff

/-- As predicates, the test for an end is a rise or a stray one. -/
theorem risesAt_placed :
    RisesAt (placed outside channel.value)
        (imageMean (placed outside channel.value)) =
      fun index =>
        channel.Rise index ∨ channel.StrayRise outside index :=
  funext fun _ => propext risesAt_iff

/--
What `detection_line` finds, in terms of the falls and rises of the channel.
-/
theorem detectionLine_placed_iff :
    detectionLine (placed outside channel.value) = true ↔
      ¬ channel.Fall 0 ∧
        ∃ first last, channel.Line first last ∧
          ∀ other, first < other → ¬ channel.StrayRise outside other := by
  rw [detectionLine_eq_true_iff, fallsAt_placed, risesAt_placed]
  simp only [HasSpan, Nat.zero_le, true_and, span_iff]

end Image

/--
There is a line, but pixel 0 is a fall, or every line has a stray rise behind
its own fall.
-/
def Channel.LostAtBorder (channel : Channel) (outside : Memory) : Prop :=
  channel.HasLine ∧
    (channel.Fall 0 ∨
      ∀ first last, channel.Line first last →
        ∃ other, first < other ∧ channel.StrayRise outside other)

/--
For every image of a channel in any memory: `detection_line` decides whether
the image has a dark line, unless its lines are lost at the border.
-/
theorem detectionLine_decides_iff
    (channel : Channel)
    (outside : Memory) :
    (detectionLine (placed outside channel.value) = true ↔
        channel.HasLine) ↔
      ¬ channel.LostAtBorder outside := by
  rw [detectionLine_placed_iff]
  constructor
  · rintro decides ⟨hasLine, border | cut⟩
    · exact (decides.mpr hasLine).1 border
    · obtain ⟨-, first, last, line, noStray⟩ := decides.mpr hasLine
      obtain ⟨other, behind, stray⟩ := cut first last line
      exact noStray other behind stray
  · intro kept
    constructor
    · rintro ⟨-, first, last, line, -⟩
      exact ⟨first, last, line⟩
    · intro hasLine
      refine ⟨fun border => kept ⟨hasLine, .inl border⟩, ?_⟩
      by_contra none
      refine kept ⟨hasLine, .inr fun first last line => ?_⟩
      by_contra uncut
      exact none ⟨first, last, line,
        fun other behind stray => uncut ⟨other, behind, stray⟩⟩

/-- The mean of an image whose pixels are bright from 41 on. -/
theorem mean_of_bright
    {channel : Channel}
    (bright : ∀ index, 41 ≤ index → channel.value index = 31) :
    channel.mean =
      (exactSum (fun index => (channel.value index).toUInt16)
        (List.range 41) + 18569) / 640 := by
  have constant :
      ∀ index, 41 ≤ index → (channel.value index).toUInt16 = 31 := by
    intro index behind
    rw [bright index behind]
    rfl
  rw [Channel.mean, exactSum_range_of_constant constant (by decide)]
  rfl

/-- Pixels 1 to 40 are dark, so the line falls at pixel 0. -/
def darkFromStart : Channel where
  value index := if 1 ≤ index ∧ index ≤ 40 then 0 else 31
  bounded index _ := by
    split <;> decide

theorem darkFromStart_line : darkFromStart.Line 0 41 := by
  have mean : darkFromStart.mean = 29 := by
    rw [mean_of_bright fun index behind => if_neg (by omega)]
    rfl
  have opened : darkFromStart.Fall 0 := by
    rw [Channel.Fall, mean]
    decide
  have closes : darkFromStart.Rise 41 := by
    rw [Channel.Rise, mean]
    decide
  refine ⟨opened, ⟨by decide, closes, ?_⟩, by decide⟩
  rintro other above before ⟨-, -, bright, -⟩
  have dark : darkFromStart.value other = 0 :=
    if_pos ⟨above, Nat.le_of_lt_succ before⟩
  rw [dark] at bright
  exact Nat.not_lt_zero _ bright

/-- A line that falls at pixel 0 is not detected. -/
theorem line_missed_at_border :
    ¬ ∀ (channel : Channel) (outside : Memory),
      detectionLine (placed outside channel.value) = true ↔
        channel.HasLine := by
  intro decides
  have hasLine : darkFromStart.HasLine := ⟨0, 41, darkFromStart_line⟩
  have detected := (decides darkFromStart fun _ => 0).mpr hasLine
  exact (detectionLine_placed_iff.mp detected).1 darkFromStart_line.opened

end EPuckTavern.DetectionLine
