import EPuckTavern.DarkLine

namespace EPuckTavern.DetectionLine

open Data ProcessImage

/-!
# The mean of a channel of a captured frame

`detection_line` adds up 640 bytes in a `uint16_t`.  For arbitrary bytes that
would wrap; the shift and the mask of `ProcessImage` leave five bits of each,
and then no prefix of the loop wraps and the mean is exact.
-/

/-- A pixel in RGB565, from two bytes, the high one first. -/
def pixel (frame : Frame) (index : Nat) : Nat :=
  2 ^ 8 * (frame (2 * index)).toNat + (frame (2 * index + 1)).toNat

/-- The five bits of red on top of a pixel. -/
def red (pixel : Nat) : Nat :=
  pixel / 2 ^ 11

/-- The five bits of blue at the bottom of a pixel. -/
def blue (pixel : Nat) : Nat :=
  pixel % 2 ^ 5

theorem toNat_imageRouge
    (frame : Frame)
    (index : Nat) :
    (imageRouge frame index).toNat = red (pixel frame index) := by
  have low := (frame (2 * index + 1)).toNat_lt
  rw [imageRouge, UInt8.toNat_shiftRight, Nat.shiftRight_eq_div_pow]
  change (frame (2 * index)).toNat / 2 ^ 3 = _
  simp only [red, pixel]
  omega

theorem toNat_imageBleu
    (frame : Frame)
    (index : Nat) :
    (imageBleu frame index).toNat = blue (pixel frame index) := by
  have mask (byte : Nat) : byte &&& 31 = byte % 2 ^ 5 :=
    Nat.and_two_pow_sub_one_eq_mod byte 5
  rw [imageBleu, UInt8.toNat_and]
  change (frame (2 * index + 1)).toNat &&& 31 = _
  rw [mask]
  simp only [blue, pixel]
  omega

/-- The accumulator of the loop after `count` of its iterations. -/
def imageSumTo (image : Memory) (count : Nat) : UInt16 :=
  (List.range count).foldl
    (fun mean (index : Nat) => mean + (image index).toUInt16) 0

/-- The sum of the loop is the sum over its 640 pixels. -/
theorem imageSum_eq_imageSumTo (image : Memory) :
    imageSum image = imageSumTo image imageBufferSize :=
  imageSum_eq image

/-- No prefix of the loop wraps, and the mean is the floor of the exact one. -/
structure ExactMean (image : Memory) (value : Nat → Nat) : Prop where
  sum :
    ∀ count ≤ imageBufferSize,
      (imageSumTo image count).toNat =
        ((List.range count).map value).sum
  mean :
    (imageMean image).toNat =
      ((List.range imageBufferSize).map value).sum / imageBufferSize

/-- Five bits for each pixel leave room for 640 of them. -/
theorem exactMean_placed
    (channel : Channel)
    (outside : Memory) :
    ExactMean (placed outside channel.value)
      fun index => (channel.value index).toNat := by
  have read :
      ∀ index < imageBufferSize,
        (placed outside channel.value index).toUInt16.toNat =
          (channel.value index).toNat := by
    intro index inImage
    rw [placed_of_lt inImage, UInt8.toNat_toUInt16]
  have sum :
      ∀ count ≤ imageBufferSize,
        (imageSumTo (placed outside channel.value) count).toNat =
          ((List.range count).map
            fun index => (channel.value index).toNat).sum := by
    intro count inImage
    have before :
        ∀ index ∈ List.range count, index < imageBufferSize :=
      fun index member => (List.mem_range.mp member).trans_le inImage
    have bounded :
        exactSum
            (fun index : Nat =>
              (placed outside channel.value index).toUInt16)
            (List.range count) ≤
          (List.range count).length * 31 := by
      refine exactSum_le fun index member => ?_
      rw [read index (before index member)]
      exact UInt8.le_iff_toNat_le.mp
        (channel.bounded index (before index member))
    rw [imageSumTo, toNat_foldl_add, UInt16.toNat_zero, Nat.zero_add,
      Nat.mod_eq_of_lt]
    · exact congrArg List.sum
        (List.map_congr_left fun index member =>
          read index (before index member))
    · rw [List.length_range] at bounded
      simp only [imageBufferSize] at inImage
      omega
  refine ⟨sum, ?_⟩
  rw [imageMean, imageSum_eq_imageSumTo, UInt16.toNat_div,
    sum imageBufferSize (Nat.le_refl _)]
  rfl

/--
For every captured frame, in any memory: on both channels the loop of
`detection_line` adds up the five-bit values of the pixels without
wrap-around, and compares with the floor of their exact mean.
-/
theorem imageMean_exact
    (frame : Frame)
    (outside : Memory) :
    ExactMean (placed outside (imageRouge frame))
        (fun index => red (pixel frame index)) ∧
      ExactMean (placed outside (imageBleu frame))
        (fun index => blue (pixel frame index)) := by
  constructor
  · simp only [← toNat_imageRouge]
    exact exactMean_placed (.rouge frame) outside
  · simp only [← toNat_imageBleu]
    exact exactMean_placed (.bleu frame) outside

end EPuckTavern.DetectionLine
