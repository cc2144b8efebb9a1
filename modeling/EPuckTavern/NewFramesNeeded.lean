import EPuckTavern.NewFrames

namespace EPuckTavern.Vision

open Transition ProcessImage Data
open DetectionLine (Memory detectionLine)

/-!
# Ten new frames are needed

When every frame is processed before the next one is captured, the scanner
returns the class of the votes over whatever the windows held and the frames
recorded since.  Nine frames can leave a vote undecided, so that an older one
tips it; ten cannot.
-/

/-- One frame is captured and processed before anything else happens. -/
def frameRound (outside : Memory) (frame : Frame) : List Action :=
  [.capture, .capture, .capture, .frameEnd frame, .capture] ++
    List.replicate 8 (.process outside)

/-- Both camera threads are at the head of their loop, with nothing to do. -/
def awaiting
    (flags : PauseFlags)
    (image : Frame)
    (window : VoteWindow) : ProcessImage.State where
  flags := flags
  imageReady := false
  capturing := false
  lastImage := image
  capture := .testPaused
  process := .testPaused
  image := image
  window := window
  line := votes window

/-- A round of the camera threads records its frame. -/
theorem run?_frameRound
    {outside : Memory}
    {flags : PauseFlags}
    (running : flags.isPaused = false)
    (image : Frame)
    (window : VoteWindow)
    (scan : Option Scan.Local)
    (fresh : Freshness)
    (frame : Frame) :
    run? Tracked.step? ⟨⟨awaiting flags image window, scan⟩, fresh⟩
        (frameRound outside frame) =
      some ⟨⟨awaiting flags frame (window.push (detect outside frame)), scan⟩,
        ⟨true, true, fresh.recorded + 1⟩⟩ := by
  obtain ⟨thdIsCreated, isPaused⟩ := flags
  cases running
  rfl

/-- Rounds record their frames one after the other. -/
theorem run?_frameRounds
    {outside : Memory}
    {flags : PauseFlags}
    (running : flags.isPaused = false)
    (image : Frame)
    (window : VoteWindow)
    (scan : Option Scan.Local)
    (fresh : Freshness)
    (frames : List Frame) :
    ∃ last freshLast,
      run? Tracked.step?
          ⟨⟨awaiting flags image window, scan⟩, fresh⟩
          (frames.flatMap (frameRound outside)) =
        some ⟨⟨awaiting flags last (recordAll outside window frames), scan⟩,
          freshLast⟩ ∧
        freshLast.recorded = fresh.recorded + frames.length := by
  induction frames generalizing image window fresh with
  | nil => exact ⟨image, fresh, rfl, rfl⟩
  | cons frame rest inductionHypothesis =>
      obtain ⟨last, freshLast, ran, recorded⟩ :=
        inductionHypothesis frame (window.push (detect outside frame))
          ⟨true, true, fresh.recorded + 1⟩
      refine ⟨last, freshLast, ?_, ?_⟩
      · rw [List.flatMap_cons]
        exact run?_append
          (run?_frameRound running image window scan fresh frame) ran
      · rw [recorded]
        exact Nat.succ_add_eq_add_succ _ _

/-- `Scan` reads nothing in such a round. -/
theorem readPoint?_frameRounds
    {outside : Memory}
    {frames : List Frame}
    {action : Action}
    (member : action ∈ frames.flatMap (frameRound outside))
    (state : State) :
    state.readPoint? action = none := by
  obtain ⟨frame, -, inRound⟩ := List.mem_flatMap.mp member
  simp only [frameRound, List.mem_append, List.mem_cons,
    List.not_mem_nil, or_false, List.mem_replicate] at inRound
  rcases inRound with (rfl | rfl | rfl | rfl | rfl) | ⟨-, rfl⟩ <;> rfl

/-- The scanner is about to resume the camera in front of an object. -/
def atObject (image : Frame) (window : VoteWindow) : State where
  camera := awaiting ⟨true, true⟩ image window
  scan := some ⟨.resumeImage, 0, .autre⟩

/-- Windows and images apart, `Scan` stands before its object in one way. -/
theorem sameControl_atObject
    (image otherImage : Frame)
    (window otherWindow : VoteWindow) :
    SameControl (atObject image window) (atObject otherImage otherWindow)
      where
  camera := ⟨rfl, rfl, rfl, rfl, rfl⟩
  scan := rfl

/-- `Scan` comes to its object and lets the images be processed. -/
theorem run?_approach
    (camera : ProcessImage.State) :
    run? step? ⟨camera, some Scan.entry⟩
        (List.replicate 8 scanStep) =
      some ⟨camera, some ⟨.resumeImage, 0, .autre⟩⟩ := by
  have inRange : Scan.belowMax 200 = true ∧ Scan.aboveMin 200 = true := by
    decide
  have arrived : toInt16 (200 - scanDist) = 0 := by decide
  have noTime : DistanceApproach.timeApproach 0 = 0 := by decide +kernel
  simp [List.replicate, run?, step?, scanStep, gone, Scan.stage,
    Stage.hasExited, Scan.entry, Scan.next, inputOf, scanFlags, inRange,
    arrived, DistanceApproach.next?, Scan.Leg.distance, Scan.Leg.after,
    noTime]

/-- Whatever frames were captured before, the scanner can meet an object. -/
theorem reachable_atObject
    (outside : Memory)
    (frames : List Frame) :
    ∃ image,
      Reachable step? boot
        (atObject image (recordAll outside boot.camera.window frames)) := by
  obtain ⟨image, fresh, ran, -⟩ :=
    @run?_frameRounds outside ⟨true, false⟩ rfl (fun _ => 0)
      boot.camera.window none .start frames
  have entered :
      run? step?
          ⟨awaiting ⟨true, false⟩ image
            (recordAll outside boot.camera.window frames), none⟩
          [.mainPause, .scanCreate] =
        some ⟨awaiting ⟨true, true⟩ image
          (recordAll outside boot.camera.window frames),
          some Scan.entry⟩ := rfl
  exact ⟨image, _,
    run?_append (Tracked.run?_vision ran)
      (run?_append entered (run?_approach _))⟩

/-- After its sleep `Scan` classifies what the votes say. -/
theorem run?_colorScan
    {least : Nat}
    {fresh : Freshness}
    (enough : least ≤ fresh.recorded)
    (camera : ProcessImage.State) :
    ∃ final,
      run? Tracked.step?
        ⟨⟨camera, some ⟨.sleepScan, 0, .autre⟩⟩, fresh⟩
        (List.replicate 4 scanStep) = some final ∧
      final.vision.scan.map Scan.Local.colorScanned =
        some (classify camera.line) ∧
      Along Tracked.step? (Tracked.ReadsAfter least)
        ⟨⟨camera, some ⟨.sleepScan, 0, .autre⟩⟩, fresh⟩
        (List.replicate 4 scanStep) := by
  obtain ⟨flags, imageReady, capturing, lastImage, capture, process,
    image, window, ⟨red, blue⟩⟩ := camera
  cases red <;> cases blue <;>
    exact ⟨_, rfl, rfl, fun _ => enough, fun _ => enough, fun _ => enough,
      fun _ => enough, trivial⟩

/-- The camera is resumed, some frames are processed, and the flags read. -/
def scanObject (outside : Memory) (frames : List Frame) : List Action :=
  [scanStep] ++ frames.flatMap (frameRound outside) ++ List.replicate 4 scanStep

/-- The frames that are recorded before the reads decide on the colour. -/
theorem run?_scanObject
    {outside : Memory}
    {least : Nat}
    {frames : List Frame}
    (enough : least ≤ frames.length)
    (image : Frame)
    (window : VoteWindow) :
    ∃ final,
      run? step? (atObject image window) (scanObject outside frames) =
        some final ∧
      final.scan.map Scan.Local.colorScanned =
        some (classify (votes (recordAll outside window frames))) ∧
      Along Tracked.step? (Tracked.ReadsAfter least)
        (.start (atObject image window)) (scanObject outside frames) := by
  obtain ⟨last, fresh, processed, recorded⟩ :=
    @run?_frameRounds outside ⟨true, false⟩ rfl image window
      (some ⟨.sleepScan, 0, .autre⟩) .start frames
  have resumed :
      run? Tracked.step? (.start (atObject image window))
          [scanStep] =
        some ⟨⟨awaiting ⟨true, false⟩ image window,
          some ⟨.sleepScan, 0, .autre⟩⟩, .start⟩ := rfl
  have looked := run?_append resumed processed
  have enoughRecorded : least ≤ fresh.recorded := by
    rw [recorded]
    exact enough.trans (Nat.le_add_left _ _)
  obtain ⟨final, ran, color, freshReads⟩ :=
    @run?_colorScan _ _ enoughRecorded
      (awaiting ⟨true, false⟩ last (recordAll outside window frames))
  refine ⟨final.vision, Tracked.run?_vision (run?_append looked ran),
    color, ?_⟩
  rw [scanObject, along_append looked, along_append resumed]
  refine ⟨⟨⟨nofun, trivial⟩, ?_⟩, freshReads⟩
  apply along_of_forall_mem
  intro action member state next taken firstRead
  rw [readPoint?_frameRounds member] at firstRead
  cases firstRead

/--
What `color_scan` returns depends on the frames captured since the resume
alone, if it is called when at least so many of them have been recorded.
-/
def DependsOnNewFrames (least : Nat) : Prop :=
  ∀ {first second thread actions final},
    Reachable step? boot first →
    Reachable step? boot second →
    SameControl first second →
    first.scan = some thread →
    thread.pc = .resumeImage →
    Along Tracked.step? (Tracked.ReadsAfter least)
      (.start first) actions →
    run? step? first actions = some final →
    ∃ otherFinal,
      run? step? second actions = some otherFinal ∧
        otherFinal.scan.map Scan.Local.colorScanned =
          final.scan.map Scan.Local.colorScanned

/-- A white frame. -/
def blank : Frame :=
  fun _ => 0xFF

/-- A dark line is seen in one frame, and none in the other. -/
theorem exists_detect :
    ∃ outside,
      detect outside darkLine = ⟨true, true⟩ ∧
        detect outside blank = ⟨false, false⟩ :=
  ⟨fun _ => 0, by decide +kernel, by decide +kernel⟩

/-- Nine frames leave a vote undecided, and the frame before them decides. -/
theorem not_dependsOnNewFrames
    {least : Nat}
    (fewer : least < nbSampleScan) :
    ¬ DependsOnNewFrames least := by
  intro depends
  obtain ⟨outside, dark, bright⟩ := exists_detect
  have enough :
      least ≤
        (List.replicate 5 darkLine ++ List.replicate 4 blank).length :=
    Nat.le_of_lt_succ fewer
  obtain ⟨image, reachable⟩ :=
    reachable_atObject outside (List.replicate 10 darkLine)
  obtain ⟨otherImage, otherReachable⟩ :=
    reachable_atObject outside (List.replicate 10 blank)
  obtain ⟨final, ran, color, fresh⟩ :=
    @run?_scanObject outside _ _ enough image
      (recordAll outside boot.camera.window (List.replicate 10 darkLine))
  obtain ⟨otherFinal, otherRan, otherColor, -⟩ :=
    @run?_scanObject outside _ _ enough otherImage
      (recordAll outside boot.camera.window (List.replicate 10 blank))
  obtain ⟨_, sameRan, sameColor⟩ :=
    depends reachable otherReachable (sameControl_atObject _ _ _ _) rfl rfl
      fresh ran
  rw [otherRan, Option.some.injEq] at sameRan
  subst sameRan
  rw [color, otherColor] at sameColor
  simp only [recordAll, List.map_append, List.map_replicate, dark, bright]
    at sameColor
  exact absurd sameColor (by decide)

/-- A verdict depends on the new frames alone once ten of them are recorded. -/
theorem dependsOnNewFrames_iff
    (least : Nat) :
    DependsOnNewFrames least ↔ nbSampleScan ≤ least := by
  constructor
  · intro depends
    by_contra fewer
    exact not_dependsOnNewFrames (Nat.lt_of_not_le fewer) depends
  · intro enough first second thread actions final _ _ same object
      resuming fresh ran
    have freshEnough :
        Along Tracked.step? (Tracked.ReadsAfter nbSampleScan)
          (.start first) actions :=
      fresh.mono fun _ _ recorded firstRead =>
        enough.trans (recorded firstRead)
    obtain ⟨otherFinal, otherRan, sameScan⟩ :=
      scan_eq_of_newFrames same object resuming freshEnough ran
    exact ⟨otherFinal, otherRan, by rw [sameScan]⟩

/-- One new frame is not enough. -/
theorem old_frames_decide :
    ¬ DependsOnNewFrames 1 :=
  not_dependsOnNewFrames (by decide)

end EPuckTavern.Vision
