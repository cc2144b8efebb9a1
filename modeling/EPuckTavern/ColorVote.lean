import EPuckTavern.Vision

namespace EPuckTavern.Vision

open Transition ProcessImage Data
open DetectionLine (detectionLine)

/-!
# The published flags as a sliding majority

A raw result enters `line_detection_avg` and its vote leaves through the same
flag, and the two channels share the index of their rings.  Whenever
`ProcessImage` is between two frames, each flag is the majority of the last
ten raw results of its own channel, whatever the threads and the pauses have
done in between.
-/

/-- More than half of the last `NB_SAMPLE_SCAN` values, missing ones false. -/
def Majority (values : List Bool) : Prop :=
  nbSampleScan / 2 < (values.reverse.take nbSampleScan).count true

/-- A flag of both channels at once. -/
theorem vote_foldl_push_iff
    {channel : Detection → Bool}
    (unset : channel ⟨false, false⟩ = false)
    (raws : List Detection) :
    vote channel (raws.foldl RingBuffer.push ProcessImage.boot.window) =
        true ↔
      Majority (raws.map channel) := by
  have newest :
      (raws.foldl RingBuffer.push ProcessImage.boot.window).newest =
        (raws.reverse ++
          List.replicate nbSampleScan (⟨false, false⟩ : Detection)).take
          nbSampleScan :=
    RingBuffer.newest_foldl_push_fill raws _ (by decide)
  have counted :
      (raws.foldl RingBuffer.push ProcessImage.boot.window).cells.countP
          channel =
        (raws.reverse.take nbSampleScan).countP channel := by
    rw [(RingBuffer.cells_perm_newest _).countP_eq, newest,
      List.take_append, List.countP_append, List.take_replicate,
      List.countP_replicate, unset]
    rfl
  have values :
      ((raws.map channel).reverse.take nbSampleScan).count true =
        (raws.reverse.take nbSampleScan).countP channel := by
    rw [← List.map_reverse, ← List.map_take, List.count, List.countP_map]
    congr 1
    funext raw
    exact beq_true (channel raw)
  rw [vote, counted, Majority, values, decide_eq_true_eq, gt_iff_lt]

/-- A frame, with the memory around the array of one of its channels. -/
structure Sight where
  frame : Frame
  outside : DetectionLine.Memory

/-- `detection_line(image_rouge)` -/
def Sight.red (sight : Sight) : Bool :=
  detectionLine (placed sight.outside (imageRouge sight.frame))

/-- `detection_line(image_bleu)` -/
def Sight.blue (sight : Sight) : Bool :=
  detectionLine (placed sight.outside (imageBleu sight.frame))

/-- The system with a log of what `ProcessImage` has taken apart. -/
structure Logged where
  vision : State
  /-- The frames that it has taken, in order. -/
  frames : List Frame
  /-- What `detection_line` has been called on, for each channel. -/
  reds : List Sight
  blues : List Sight

namespace Logged

/-- No frame has been taken from the camera. -/
def boot : Logged where
  vision := Vision.boot
  frames := []
  reds := []
  blues := []

/-- The frames that `ProcessImage` has copied. -/
def framesAfter (state : Logged) : Action → List Frame
  | .process _ =>
      if state.vision.camera.process = .getImage then
        state.frames ++ [state.vision.camera.lastImage]
      else
        state.frames
  | _ => state.frames

/-- What `detection_line` has been called with for the red channel. -/
def redsAfter (state : Logged) : Action → List Sight
  | .process outside =>
      if state.vision.camera.process = .storeRawRed then
        state.reds ++ [⟨state.vision.camera.image, outside⟩]
      else
        state.reds
  | _ => state.reds

/-- What `detection_line` has been called with for the blue channel. -/
def bluesAfter (state : Logged) : Action → List Sight
  | .process outside =>
      if state.vision.camera.process = .storeRawBlue then
        state.blues ++ [⟨state.vision.camera.image, outside⟩]
      else
        state.blues
  | _ => state.blues

/-- A step of the camera threads and `Scan`, with the log of the images. -/
def step? : Step Logged Action :=
  fun state action =>
    (Vision.step? state.vision action).map fun next =>
      { vision := next
        frames := state.framesAfter action
        reds := state.redsAfter action
        blues := state.bluesAfter action }

end Logged

/-- `ProcessImage` has handled the frames it has taken. -/
def BetweenFrames : ProcessImage.Pc → Prop
  | .testPaused | .sleepPaused | .semWait | .getImage => True
  | _ => False

/-- The windows hold the raw results of these frames, channel by channel. -/
structure Holds
    (frames : List Frame)
    (reds blues : List Sight)
    (window : VoteWindow) : Prop where
  raws :
    ∃ raws : List Detection,
      window = raws.foldl RingBuffer.push ProcessImage.boot.window ∧
        raws.map Detection.red = reds.map Sight.red ∧
        raws.map Detection.blue = blues.map Sight.blue
  reds : reds.map Sight.frame = frames
  blues : blues.map Sight.frame = frames

/-- One more frame is one more pair of raw results. -/
theorem Holds.push
    {frames : List Frame}
    {reds blues : List Sight}
    {window : VoteWindow}
    (holds : Holds frames reds blues window)
    (frame : Frame)
    (aroundRed aroundBlue : DetectionLine.Memory) :
    Holds (frames ++ [frame]) (reds ++ [⟨frame, aroundRed⟩])
      (blues ++ [⟨frame, aroundBlue⟩])
      (window.push
        ⟨Sight.red ⟨frame, aroundRed⟩, Sight.blue ⟨frame, aroundBlue⟩⟩) := by
  obtain ⟨⟨raws, same, red, blue⟩, ofReds, ofBlues⟩ := holds
  refine ⟨⟨raws ++ [⟨Sight.red ⟨frame, aroundRed⟩,
    Sight.blue ⟨frame, aroundBlue⟩⟩], ?_, ?_, ?_⟩, ?_, ?_⟩
  · rw [same, List.foldl_append]
    rfl
  · rw [List.map_append, List.map_append, red]
    rfl
  · rw [List.map_append, List.map_append, blue]
    rfl
  · rw [List.map_append, ofReds]
    rfl
  · rw [List.map_append, ofBlues]
    rfl

/-- What the windows and the flags hold at a statement of `ProcessImage`. -/
def Voted
    (frames : List Frame)
    (reds blues : List Sight)
    (camera : ProcessImage.State) : Prop :=
  match camera.process with
  | .testPaused | .sleepPaused | .semWait | .getImage =>
      Holds frames reds blues camera.window ∧
        camera.line = votes camera.window
  | .storeRawRed =>
      ∃ earlier,
        frames = earlier ++ [camera.image] ∧
          Holds earlier reds blues camera.window
  | .storeRawBlue =>
      ∃ earlier seenRed aroundRed,
        frames = earlier ++ [camera.image] ∧
          reds = seenRed ++ [⟨camera.image, aroundRed⟩] ∧
          Holds earlier seenRed blues camera.window ∧
          camera.line.red = Sight.red ⟨camera.image, aroundRed⟩
  | .record =>
      ∃ earlier seenRed aroundRed seenBlue aroundBlue,
        frames = earlier ++ [camera.image] ∧
          reds = seenRed ++ [⟨camera.image, aroundRed⟩] ∧
          blues = seenBlue ++ [⟨camera.image, aroundBlue⟩] ∧
          Holds earlier seenRed seenBlue camera.window ∧
          camera.line =
            ⟨Sight.red ⟨camera.image, aroundRed⟩,
              Sight.blue ⟨camera.image, aroundBlue⟩⟩
  | .storeVoteRed => Holds frames reds blues camera.window
  | .storeVoteBlue =>
      Holds frames reds blues camera.window ∧
        camera.line.red = vote Detection.red camera.window

/-- Step lemma of `ProcessImage`. -/
theorem voted_process
    {outside : DetectionLine.Memory}
    {state : Logged}
    {next : ProcessImage.State}
    (voted :
      Voted state.frames state.reds state.blues state.vision.camera)
    (taken : processStep? outside state.vision.camera = some next) :
    Voted (state.framesAfter (.process outside))
      (state.redsAfter (.process outside))
      (state.bluesAfter (.process outside)) next := by
  obtain ⟨⟨⟨flags, imageReady, capturing, lastImage, capture, process, image,
    window, line⟩, scan⟩, frames, reds, blues⟩ := state
  cases process with
  | testPaused =>
      simp only [processStep?] at taken
      split at taken <;> cases taken <;> exact voted
  | sleepPaused =>
      cases taken
      exact voted
  | semWait =>
      simp only [processStep?] at taken
      split at taken <;> cases taken
      exact voted
  | getImage =>
      cases taken
      exact ⟨frames, rfl, voted.1⟩
  | storeRawRed =>
      cases taken
      obtain ⟨earlier, split, holds⟩ := voted
      exact ⟨earlier, reds, outside, split, rfl, holds, rfl⟩
  | storeRawBlue =>
      cases taken
      obtain ⟨earlier, seenRed, aroundRed, split, red, holds, raw⟩ := voted
      exact ⟨earlier, seenRed, aroundRed, blues, outside, split, red, rfl,
        holds, congrArg₂ Detection.mk raw rfl⟩
  | record =>
      cases taken
      obtain ⟨earlier, seenRed, aroundRed, seenBlue, aroundBlue, split, red,
        blue, holds, raw⟩ := voted
      have pushed := holds.push image aroundRed aroundBlue
      rw [← raw, ← split, ← red, ← blue] at pushed
      exact pushed
  | storeVoteRed =>
      cases taken
      exact ⟨voted, rfl⟩
  | storeVoteBlue =>
      cases taken
      exact ⟨voted.1, congrArg₂ Detection.mk voted.2 rfl⟩

/-- The other threads have no part in what `ProcessImage` holds. -/
theorem step?_processing
    {state next : State}
    {action : Action}
    (taken : step? state action = some next)
    (other : ∀ outside, action ≠ .process outside) :
    SameProcessing state.camera next.camera := by
  rcases step?_cases taken with
    ⟨camera, -, moved, rfl⟩ |
    ⟨frame, camera, -, ended, rfl⟩ |
    ⟨outside, camera, processing, -⟩ |
    ⟨distMm, colorMode, mustStop, thread, -, -, rfl⟩ |
    ⟨-, rfl⟩ |
    ⟨-, rfl⟩
  · exact captureStep?_processing moved
  · exact frameEnd?_processing ended
  · exact (other outside processing).elim
  · exact ⟨rfl, rfl, rfl, rfl⟩
  · exact ⟨rfl, rfl, rfl, rfl⟩
  · exact ⟨rfl, rfl, rfl, rfl⟩

/-- Step lemma: whoever steps, windows and flags hold what they should. -/
theorem voted_step
    {state next : Logged}
    {action : Action}
    (voted :
      Voted state.frames state.reds state.blues state.vision.camera)
    (taken : Logged.step? state action = some next) :
    Voted next.frames next.reds next.blues next.vision.camera := by
  obtain ⟨vision, moved, rfl⟩ := Option.map_eq_some_iff.mp taken
  by_cases processing : ∃ outside, action = .process outside
  · obtain ⟨outside, rfl⟩ := processing
    obtain ⟨camera, processed, rfl⟩ := Option.map_eq_some_iff.mp moved
    exact voted_process voted processed
  · have other := not_exists.mp processing
    have logs :
        state.framesAfter action = state.frames ∧
          state.redsAfter action = state.reds ∧
          state.bluesAfter action = state.blues := by
      cases action with
      | process outside => exact (other outside rfl).elim
      | _ => exact ⟨rfl, rfl, rfl⟩
    have same := step?_processing moved other
    rw [Voted, logs.1, logs.2.1, logs.2.2, same.process, same.image,
      same.window, same.line]
    exact voted

/--
In every run of the camera threads, the interrupt, the scanner and main,
whatever lies around the two arrays at each step: when `ProcessImage` is
between two frames, it has looked for a line in both channels of each frame it
has taken, and each published flag is the majority of the last ten results of
its own channel.
-/
theorem line_iff_majority
    {actions : List Action}
    {final : Logged}
    (ran : run? Logged.step? Logged.boot actions = some final)
    (between : BetweenFrames final.vision.camera.process) :
    (final.vision.camera.line.red = true ↔
        Majority (final.reds.map Sight.red)) ∧
      (final.vision.camera.line.blue = true ↔
        Majority (final.blues.map Sight.blue)) ∧
      final.reds.map Sight.frame = final.frames ∧
      final.blues.map Sight.frame = final.frames := by
  have initially :
      Voted Logged.boot.frames Logged.boot.reds Logged.boot.blues
        Logged.boot.vision.camera :=
    ⟨⟨⟨[], rfl, rfl, rfl⟩, rfl, rfl⟩, rfl⟩
  have voted :
      Voted final.frames final.reds final.blues final.vision.camera :=
    run?_invariant voted_step initially ran
  have published :
      Holds final.frames final.reds final.blues
          final.vision.camera.window ∧
        final.vision.camera.line = votes final.vision.camera.window := by
    rw [Voted] at voted
    cases here : final.vision.camera.process with
    | testPaused | sleepPaused | semWait | getImage =>
        simp only [here] at voted
        exact voted
    | _ =>
        rw [here] at between
        exact between.elim
  obtain ⟨⟨⟨raws, window, red, blue⟩, ofReds, ofBlues⟩, line⟩ := published
  rw [line, window, ← red, ← blue]
  exact ⟨vote_foldl_push_iff rfl raws, vote_foldl_push_iff rfl raws,
    ofReds, ofBlues⟩

/-- A dark line in the blue channel only. -/
def blueLine : Frame :=
  fun byte => if 200 ≤ byte ∧ byte < 400 ∧ byte % 2 = 1 then 0 else 0xFF

/-- A frame is captured and handled; the memory around the arrays differs. -/
def handled (frame : Frame) : List Action :=
  [.capture, .capture, .capture, .frameEnd frame, .capture] ++
    List.replicate 4 (.process fun _ => 0) ++
    List.replicate 4 (.process fun _ => 0x1F)

/-- Five frames without a line and six with one go through the windows. -/
def elevenFrames : List Action :=
  (List.replicate 5 (handled fun _ => 0xFF) ++
    List.replicate 6 (handled blueLine)).flatten

/-- What eleven frames leave behind. -/
def afterElevenFrames : Logged :=
  (run? Logged.step? Logged.boot elevenFrames).getD Logged.boot

/-- The rings have gone round, and six of ten blue results raise the flag. -/
theorem line_after_elevenFrames :
    afterElevenFrames.frames.length = 11 ∧
    afterElevenFrames.vision.camera.line = ⟨false, true⟩ ∧
    (afterElevenFrames.vision.camera.line.red = true ↔
        Majority (afterElevenFrames.reds.map Sight.red)) ∧
      (afterElevenFrames.vision.camera.line.blue = true ↔
        Majority (afterElevenFrames.blues.map Sight.blue)) ∧
      afterElevenFrames.reds.map Sight.frame = afterElevenFrames.frames ∧
      afterElevenFrames.blues.map Sight.frame = afterElevenFrames.frames :=
  ⟨by decide +kernel, by decide +kernel,
    line_iff_majority (run?_eq_some_getD (by decide +kernel)) trivial⟩

end EPuckTavern.Vision
