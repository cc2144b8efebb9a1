import EPuckTavern.DetectionLine
import EPuckTavern.PausableThread
import EPuckTavern.Data.RingBuffer

namespace EPuckTavern.ProcessImage

open Data

/-!
# Capture and processing of camera lines: `process_image.c`

`CaptureImage` starts one capture after another and signals a binary semaphore
for each frame; `ProcessImage` takes the frame apart into its red and blue
channels, looks for a line in each, and smooths the two results by a vote
over the last ten frames.

The two published flags hold the raw results of a frame first, and the votes
only later, one flag after the other.
-/

open DetectionLine (Memory detectionLine imageBufferSize)

/-- `NB_SAMPLE_SCAN` -/
def nbSampleScan : Nat := 10

/-- The bytes of a captured line in RGB565, high byte first. -/
abbrev Frame := Nat → UInt8

/-- `image_rouge`. -/
def imageRouge (frame : Frame) (index : Nat) : UInt8 :=
  frame (2 * index) >>> 3

/-- `image_bleu`. -/
def imageBleu (frame : Frame) (index : Nat) : UInt8 :=
  frame (2 * index + 1) &&& 0x1F

/-- An array of `IMAGE_BUFFER_SIZE` values in its surroundings. -/
def placed (outside : Memory) (image : Nat → UInt8) : Memory :=
  fun index =>
    if 0 ≤ index ∧ index < imageBufferSize then
      image index.toNat
    else
      outside index

/-- A value of `line_detection_red` and one of `line_detection_blue`. -/
structure Detection where
  red : Bool
  blue : Bool
  deriving Repr, DecidableEq

/-- `previous_line_red` and `previous_line_blue`, with `circular_buffer`. -/
abbrev VoteWindow := RingBuffer Detection nbSampleScan

/-- One counting loop of `line_detection_avg`, and its comparison. -/
def vote (channel : Detection → Bool) (window : VoteWindow) : Bool :=
  window.cells.countP channel > nbSampleScan / 2

/-- The votes of both channels. -/
def votes (window : VoteWindow) : Detection where
  red := vote Detection.red window
  blue := vote Detection.blue window

/-- `ProcessImage_start_thd` on the flags of `process_image.c`. -/
def processImageStartThd : PauseFlags → PauseFlags :=
  PauseFlags.startThd

/-- `ProcessImage_pause_thd` -/
def processImagePauseThd : PauseFlags → PauseFlags :=
  PauseFlags.pauseThd

/-- `ProcessImage_resume_thd` -/
def processImageResumeThd : PauseFlags → PauseFlags :=
  PauseFlags.resumeThd

/-- Control points of `CaptureImage`. -/
inductive CapturePc where
  | testPaused
  | sleepPaused
  | captureStart
  /-- About to block on the condition variable in `wait_image_ready`. -/
  | waitImageReady
  /-- Blocked on it. -/
  | waiting
  | signal
  deriving Repr, DecidableEq

/-- Control points of `ProcessImage`. -/
inductive Pc where
  | testPaused
  | sleepPaused
  | semWait
  | getImage
  | storeRawRed
  | storeRawBlue
  /-- `line_detection_avg` reads the flags into its windows. -/
  | record
  | storeVoteRed
  | storeVoteBlue
  deriving Repr, DecidableEq

/-- The statics of `process_image.c` and of the camera, and both threads. -/
structure State where
  flags : PauseFlags
  /-- `image_ready_sem` has been signalled. -/
  imageReady : Bool
  /-- A capture has been started and its frame has not ended. -/
  capturing : Bool
  /-- What `dcmi_get_last_image_ptr()` points to. -/
  lastImage : Frame
  capture : CapturePc
  process : Pc
  /-- The frame that `ProcessImage` has taken apart. -/
  image : Frame
  window : VoteWindow
  line : Detection

/-- After `ProcessImage_start_thd`. -/
def boot : State where
  flags := processImageStartThd .initial
  imageReady := false
  capturing := false
  lastImage := fun _ => 0
  capture := .testPaused
  process := .testPaused
  image := fun _ => 0
  window := .fill ⟨false, false⟩ (by decide)
  line := ⟨false, false⟩

/-- One step of `CaptureImage`; it cannot step while it is blocked. -/
def captureStep? (state : State) : Option State :=
  match state.capture with
  | .testPaused =>
      if !state.flags.isPaused then
        some { state with capture := .captureStart }
      else
        some { state with capture := .sleepPaused }
  | .sleepPaused => some { state with capture := .testPaused }
  | .captureStart =>
      some { state with capture := .waitImageReady, capturing := true }
  | .waitImageReady => some { state with capture := .waiting }
  | .waiting => none
  | .signal =>
      some { state with capture := .testPaused, imageReady := true }

/-- `frameEndCb`, at the end of a capture: it wakes a blocked thread only. -/
def frameEnd? (frame : Frame) (state : State) : Option State :=
  if state.capturing then
    some { state with
      capturing := false
      lastImage := frame
      capture :=
        if state.capture = .waiting then .signal else state.capture }
  else
    none

/-- One step of `ProcessImage`; it blocks on the semaphore. -/
def processStep? (outside : Memory) (state : State) : Option State :=
  match state.process with
  | .testPaused =>
      if !state.flags.isPaused then
        some { state with process := .semWait }
      else
        some { state with process := .sleepPaused }
  | .sleepPaused => some { state with process := .testPaused }
  | .semWait =>
      if state.imageReady then
        some { state with process := .getImage, imageReady := false }
      else
        none
  | .getImage =>
      some { state with process := .storeRawRed, image := state.lastImage }
  | .storeRawRed =>
      some { state with
        process := .storeRawBlue
        line := { state.line with
          red :=
            detectionLine (placed outside (imageRouge state.image)) } }
  | .storeRawBlue =>
      some { state with
        process := .record
        line := { state.line with
          blue :=
            detectionLine (placed outside (imageBleu state.image)) } }
  | .record =>
      some { state with
        process := .storeVoteRed
        window := state.window.push state.line }
  | .storeVoteRed =>
      some { state with
        process := .storeVoteBlue
        line := { state.line with red := vote Detection.red state.window } }
  | .storeVoteBlue =>
      some { state with
        process := .testPaused
        line := { state.line with
          blue := vote Detection.blue state.window } }

/-- What `ProcessImage` works on is the same. -/
structure SameProcessing (state next : State) : Prop where
  process : next.process = state.process
  image : next.image = state.image
  window : next.window = state.window
  line : next.line = state.line

/-- `CaptureImage` leaves `ProcessImage` where it stands. -/
theorem captureStep?_processing
    {state next : State}
    (taken : captureStep? state = some next) :
    SameProcessing state next := by
  simp only [captureStep?] at taken
  split at taken
  · split at taken <;> cases taken <;> exact ⟨rfl, rfl, rfl, rfl⟩
  all_goals first | (cases taken; exact ⟨rfl, rfl, rfl, rfl⟩) | cases taken

/-- The end of a frame leaves `ProcessImage` where it stands. -/
theorem frameEnd?_processing
    {state next : State}
    {frame : Frame}
    (taken : frameEnd? frame state = some next) :
    SameProcessing state next := by
  simp only [frameEnd?] at taken
  split at taken
  · cases taken
    exact ⟨rfl, rfl, rfl, rfl⟩
  · cases taken

end EPuckTavern.ProcessImage
