import EPuckTavern.Vision

namespace EPuckTavern.Vision

open Transition ProcessImage Data
open DetectionLine (detectionLine)

/-!
# How many new frames a colour verdict needs

Two runs whose threads are at the same statements can still hold different
frames: in the buffer, in `ProcessImage`, in the windows of the vote and in
the published flags.  A tracker beside the first run follows the frames that
end from then on.  Once `NB_SAMPLE_SCAN` of them have been recorded in a row,
the windows are the same in both runs, and so is everything that `color_scan`
reads.
-/

/-- The camera threads are at the same statements, whatever their frames. -/
structure SamePlaces (camera other : ProcessImage.State) : Prop where
  flags : camera.flags = other.flags
  imageReady : camera.imageReady = other.imageReady
  capturing : camera.capturing = other.capturing
  capture : camera.capture = other.capture
  process : camera.process = other.process

/-- Two states that differ in frames only, and in what they have left. -/
structure SameControl (first second : State) : Prop where
  camera : SamePlaces first.camera second.camera
  scan : first.scan = second.scan

/-- Where the frames of a run come from, since the tracker was started. -/
structure Freshness where
  /-- The last image has ended since then. -/
  imageNew : Bool
  /-- So has the frame that `ProcessImage` has taken apart. -/
  frameNew : Bool
  /-- New frames recorded in a row. -/
  recorded : Nat

namespace Freshness

/-- Nothing new has been captured or recorded. -/
def start : Freshness where
  imageNew := false
  frameNew := false
  recorded := 0

/-- A step of `ProcessImage`; recording an old frame breaks the row. -/
def afterProcess (fresh : Freshness) : ProcessImage.Pc → Freshness
  | .getImage => { fresh with frameNew := fresh.imageNew }
  | .record =>
      { fresh with
        recorded := if fresh.frameNew then fresh.recorded + 1 else 0 }
  | _ => fresh

/-- What an action makes new. -/
def after
    (fresh : Freshness)
    (camera : ProcessImage.State) : Action → Freshness
  | .frameEnd _ => { fresh with imageNew := true }
  | .process _ => fresh.afterProcess camera.process
  | _ => fresh

end Freshness

/-- A state of the system, with what is new in it since the start. -/
structure Tracked where
  vision : State
  fresh : Freshness

namespace Tracked

/-- The system with nothing new in it. -/
def start (state : State) : Tracked where
  vision := state
  fresh := .start

/-- A step of the camera threads and `Scan` that keeps track of what is new. -/
def step? : Step Tracked Action :=
  fun state action =>
    (Vision.step? state.vision action).map fun next =>
      { vision := next
        fresh := state.fresh.after state.vision.camera action }

/-- `color_scan` first reads a flag after so many new frames. -/
def ReadsAfter
    (least : Nat)
    (state : Tracked)
    (action : Action) : Prop :=
  state.vision.readPoint? action = some .firstRed →
    least ≤ state.fresh.recorded

end Tracked

/-- What two cameras have in common when their new frames are the same. -/
structure SameNew
    (fresh : Freshness)
    (camera other : ProcessImage.State) : Prop
    extends SamePlaces camera other where
  newImage : fresh.frameNew = true → fresh.imageNew = true
  newFrame : 0 < fresh.recorded → fresh.frameNew = true
  lastImage : fresh.imageNew = true → camera.lastImage = other.lastImage
  image : fresh.frameNew = true → camera.image = other.image
  window : RingBuffer.Agree fresh.recorded camera.window other.window
  rawRed :
    fresh.frameNew = true →
    camera.process = .storeRawBlue ∨ camera.process = .record →
    camera.line.red = other.line.red
  rawBlue :
    fresh.frameNew = true →
    camera.process = .record →
    camera.line.blue = other.line.blue
  line : nbSampleScan ≤ fresh.recorded → camera.line = other.line

/-- The other run is at the same statements, and `color_scan` cannot tell. -/
structure Twin (state : Tracked) (other : State) : Prop where
  camera : SameNew state.fresh state.vision.camera other.camera
  scan : state.vision.scan = other.scan
  reading :
    ∀ {thread point},
      state.vision.scan = some thread →
      thread.pc = .colorScan point →
      point ≠ .firstRed →
      nbSampleScan ≤ state.fresh.recorded

theorem twin_start
    {first second : State}
    (same : SameControl first second)
    (outsideScan :
      ∀ {thread point},
        first.scan = some thread → thread.pc ≠ .colorScan point) :
    Twin (.start first) second where
  camera := {
    same.camera with
    newImage := id
    newFrame := fun some => absurd some (Nat.lt_irrefl 0)
    lastImage := fun new => nomatch new
    image := fun new => nomatch new
    window := RingBuffer.agree_zero _ _
    rawRed := fun new => nomatch new
    rawBlue := fun new => nomatch new
    line := fun enough => absurd enough (Nat.not_succ_le_zero _)
  }
  scan := same.scan
  reading found inside := (outsideScan found inside).elim

theorem vote_congr
    {count : Nat}
    {window other : VoteWindow}
    (agree : RingBuffer.Agree count window other)
    (enough : nbSampleScan ≤ count)
    (channel : Detection → Bool) :
    vote channel window = vote channel other := by
  rw [vote, vote,
    RingBuffer.countP_cells_congr (agree.newest_eq enough) channel]

theorem next_congr
    {thread : Scan.Local}
    {camera other : ProcessImage.State}
    (sameLine :
      ∀ point, thread.pc = .colorScan point → camera.line = other.line)
    (distMm : UInt16)
    (colorMode : Couleur)
    (mustStop : Bool) :
    Scan.next (inputOf camera distMm colorMode) mustStop thread =
      Scan.next (inputOf other distMm colorMode) mustStop thread := by
  obtain ⟨pc, distApproach, colorScanned⟩ := thread
  cases pc with
  | colorScan point => rw [inputOf, inputOf, sameLine point rfl]
  | _ => rfl

/-- `color_scan` is entered at its first read. -/
theorem next_colorScan
    {thread : Scan.Local}
    {point : ColorScan.Pc}
    {input : Scan.Input}
    {mustStop : Bool}
    (inside :
      (Scan.next input mustStop thread).pc = .colorScan point)
    (notFirst : point ≠ .firstRed) :
    ∃ before, thread.pc = .colorScan before := by
  obtain ⟨pc, distApproach, colorScanned⟩ := thread
  cases pc with
  | colorScan before => exact ⟨before, rfl⟩
  | sleepScan =>
      cases inside
      exact (notFirst rfl).elim
  | testMustStop => cases mustStop <;> cases inside
  | testMax | testMin | testColor | spin =>
      simp only [Scan.next] at inside
      split at inside <;> cases inside
  | drive leg step =>
      simp only [Scan.next] at inside
      split at inside
      · cases inside
      · cases leg <;> cases inside
  | _ => cases inside

/-- A move of `ProcessImage` that stores nothing keeps what is new the same. -/
theorem SameNew.moveOn
    {fresh : Freshness}
    {camera other : ProcessImage.State}
    (same : SameNew fresh camera other)
    (process : ProcessImage.Pc)
    (notStored : process ≠ .storeRawBlue ∧ process ≠ .record)
    (imageReady : Bool) :
    SameNew fresh
      { camera with imageReady, process }
      { other with imageReady, process } where
  flags := same.flags
  imageReady := rfl
  capturing := same.capturing
  capture := same.capture
  process := rfl
  newImage := same.newImage
  newFrame := same.newFrame
  lastImage := same.lastImage
  image := same.image
  window := same.window
  rawRed _ stored := by
    rcases stored with stored | stored
    · exact (notStored.1 stored).elim
    · exact (notStored.2 stored).elim
  rawBlue _ stored := (notStored.2 stored).elim
  line := same.line

/-- Both runs process their frames in step. -/
theorem SameNew.processStep
    {outside : DetectionLine.Memory}
    {fresh : Freshness}
    {camera other next : ProcessImage.State}
    (same : SameNew fresh camera other)
    (moved : processStep? outside camera = some next) :
    ∃ otherNext,
      processStep? outside other = some otherNext ∧
        SameNew (fresh.afterProcess camera.process) next otherNext := by
  have moveOn := same.moveOn
  obtain ⟨flags, imageReady, capturing, lastImage, capture, process,
    image, window, line⟩ := camera
  obtain ⟨_, _, _, otherLastImage, _, _, otherImage, otherWindow,
    otherLine⟩ := other
  obtain ⟨⟨rfl, rfl, rfl, rfl, rfl⟩, newImage, newFrame, sameLastImage,
    sameImage, sameWindow, rawRed, rawBlue, sameLine⟩ := same
  have isNew (enough : nbSampleScan ≤ fresh.recorded) :
      fresh.frameNew = true :=
    newFrame (Nat.lt_of_lt_of_le (by decide) enough)
  cases process with
  | testPaused =>
      simp only [processStep?] at moved ⊢
      split at moved
      · rename_i running
        cases moved
        exact ⟨_, if_pos running, moveOn .semWait (by decide) imageReady⟩
      · rename_i paused
        cases moved
        exact ⟨_, if_neg paused,
          moveOn .sleepPaused (by decide) imageReady⟩
  | sleepPaused =>
      cases moved
      exact ⟨_, rfl, moveOn .testPaused (by decide) imageReady⟩
  | semWait =>
      simp only [processStep?] at moved ⊢
      split at moved
      · rename_i signalled
        cases moved
        exact ⟨_, if_pos signalled, moveOn .getImage (by decide) false⟩
      · cases moved
  | getImage =>
      -- The frame in hand is as new as the last image was.
      cases moved
      exact ⟨_, rfl, ⟨rfl, rfl, rfl, rfl, rfl⟩, id,
        fun some => newImage (newFrame some), sameLastImage, sameLastImage,
        sameWindow, nofun, nofun, sameLine⟩
  | storeRawRed =>
      cases moved
      have red (new : fresh.frameNew = true) :
          detectionLine (placed outside (imageRouge image)) =
            detectionLine (placed outside (imageRouge otherImage)) :=
        congrArg
          (fun frame => detectionLine (placed outside (imageRouge frame)))
          (sameImage new)
      refine ⟨_, rfl, ⟨rfl, rfl, rfl, rfl, rfl⟩, newImage, newFrame,
        sameLastImage, sameImage, sameWindow, fun new _ => red new, nofun,
        fun enough => ?_⟩
      exact congrArg₂ Detection.mk (red (isNew enough))
        (congrArg Detection.blue (sameLine enough))
  | storeRawBlue =>
      cases moved
      have blue (new : fresh.frameNew = true) :
          detectionLine (placed outside (imageBleu image)) =
            detectionLine (placed outside (imageBleu otherImage)) :=
        congrArg
          (fun frame => detectionLine (placed outside (imageBleu frame)))
          (sameImage new)
      refine ⟨_, rfl, ⟨rfl, rfl, rfl, rfl, rfl⟩, newImage, newFrame,
        sameLastImage, sameImage, sameWindow,
        fun new _ => rawRed new (.inl rfl), fun new _ => blue new,
        fun enough => ?_⟩
      exact congrArg₂ Detection.mk (rawRed (isNew enough) (.inl rfl))
        (blue (isNew enough))
  | record =>
      cases moved
      cases new : fresh.frameNew with
      | false =>
          -- The windows may differ in what they now hold: the row is over.
          refine ⟨_, rfl, ⟨rfl, rfl, rfl, rfl, rfl⟩, newImage, ?_,
            sameLastImage, sameImage, ?_, nofun, nofun, ?_⟩ <;>
            simp only [Freshness.afterProcess, new, Bool.false_eq_true,
              ↓reduceIte]
          · exact fun some => absurd some (Nat.lt_irrefl 0)
          · exact RingBuffer.agree_zero _ _
          · exact fun enough => absurd enough (Nat.not_succ_le_zero _)
      | true =>
          have raw : line = otherLine :=
            congrArg₂ Detection.mk (rawRed new (.inr rfl)) (rawBlue new rfl)
          refine ⟨_, rfl, ⟨rfl, rfl, rfl, rfl, rfl⟩, newImage, ?_,
            sameLastImage, sameImage, ?_, nofun, nofun, fun _ => raw⟩
          · exact fun _ => new
          · simp only [Freshness.afterProcess, new, ↓reduceIte]
            exact raw ▸ sameWindow.push line
  | storeVoteRed =>
      cases moved
      refine ⟨_, rfl, ⟨rfl, rfl, rfl, rfl, rfl⟩, newImage, newFrame,
        sameLastImage, sameImage, sameWindow, nofun, nofun,
        fun enough => ?_⟩
      exact congrArg₂ Detection.mk
        (vote_congr sameWindow enough Detection.red)
        (congrArg Detection.blue (sameLine enough))
  | storeVoteBlue =>
      cases moved
      refine ⟨_, rfl, ⟨rfl, rfl, rfl, rfl, rfl⟩, newImage, newFrame,
        sameLastImage, sameImage, sameWindow, nofun, nofun,
        fun enough => ?_⟩
      exact congrArg₂ Detection.mk
        (congrArg Detection.red (sameLine enough))
        (vote_congr sameWindow enough Detection.blue)

/-- `CaptureImage` moves in both runs alike. -/
theorem SameNew.captureStep
    {fresh : Freshness}
    {camera other next : ProcessImage.State}
    (same : SameNew fresh camera other)
    (moved : captureStep? camera = some next) :
    ∃ otherNext,
      captureStep? other = some otherNext ∧
        SameNew fresh next otherNext := by
  have moveOn (capturing : Bool) (capture : CapturePc)
      (imageReady : Bool) :
      SameNew fresh
        { camera with capturing, capture, imageReady }
        { other with capturing, capture, imageReady } :=
    { same with
      imageReady := rfl
      capturing := rfl
      capture := rfl }
  obtain ⟨flags, imageReady, capturing, lastImage, capture, process,
    image, window, line⟩ := camera
  obtain ⟨_, _, _, otherLastImage, _, _, otherImage, otherWindow,
    otherLine⟩ := other
  obtain ⟨rfl, rfl, rfl, rfl, rfl⟩ := same.toSamePlaces
  cases capture with
  | testPaused =>
      simp only [captureStep?] at moved ⊢
      split at moved
      · rename_i running
        cases moved
        exact ⟨_, if_pos running,
          moveOn capturing .captureStart imageReady⟩
      · rename_i paused
        cases moved
        exact ⟨_, if_neg paused,
          moveOn capturing .sleepPaused imageReady⟩
  | sleepPaused =>
      cases moved
      exact ⟨_, rfl, moveOn capturing .testPaused imageReady⟩
  | captureStart =>
      cases moved
      exact ⟨_, rfl, moveOn true .waitImageReady imageReady⟩
  | waitImageReady =>
      cases moved
      exact ⟨_, rfl, moveOn capturing .waiting imageReady⟩
  | waiting => cases moved
  | signal =>
      cases moved
      exact ⟨_, rfl, moveOn capturing .testPaused true⟩

/-- A frame that ends is new in both runs. -/
theorem SameNew.frameEnd
    {fresh : Freshness}
    {camera other next : ProcessImage.State}
    {frame : Frame}
    (same : SameNew fresh camera other)
    (moved : frameEnd? frame camera = some next) :
    ∃ otherNext,
      frameEnd? frame other = some otherNext ∧
        SameNew { fresh with imageNew := true } next otherNext := by
  simp only [frameEnd?] at moved ⊢
  split at moved
  · rename_i capturing
    cases moved
    refine ⟨_, if_pos (same.capturing ▸ capturing), ?_⟩
    exact { same with
      capturing := rfl
      capture := by rw [same.capture]
      newImage := fun _ => rfl
      lastImage := fun _ => rfl }
  · cases moved

/-- Pauses and resumes act in both runs alike. -/
theorem SameNew.setFlags
    {fresh : Freshness}
    {camera other : ProcessImage.State}
    (same : SameNew fresh camera other)
    (change : PauseFlags → PauseFlags) :
    SameNew fresh
      { camera with flags := change camera.flags }
      { other with flags := change other.flags } :=
  { same with flags := congrArg change same.flags }

/-- A step of the camera that keeps the new data the same keeps the twins. -/
theorem Twin.withCamera
    {state : Tracked}
    {other : State}
    {camera otherCamera : ProcessImage.State}
    {fresh : Freshness}
    (twin : Twin state other)
    (same : SameNew fresh camera otherCamera)
    (kept :
      nbSampleScan ≤ state.fresh.recorded →
      nbSampleScan ≤ fresh.recorded) :
    Twin { vision := { state.vision with camera }, fresh }
      { other with camera := otherCamera } where
  camera := same
  scan := twin.scan
  reading found inside notFirst :=
    kept (twin.reading found inside notFirst)

/-- No step of `ProcessImage` takes a recorded frame back. -/
theorem SameNew.recorded_le_afterProcess
    {fresh : Freshness}
    {camera other : ProcessImage.State}
    (same : SameNew fresh camera other)
    (process : ProcessImage.Pc) :
    fresh.recorded ≤ (fresh.afterProcess process).recorded := by
  cases process with
  | record =>
      simp only [Freshness.afterProcess]
      split
      · exact Nat.le_succ _
      · rename_i old
        exact Nat.le_of_not_lt fun some => old (same.newFrame some)
  | _ => exact Nat.le_refl _

/-- The scanners read the same flags, once they read any. -/
theorem Twin.scanStep
    {state : Tracked}
    {other next : State}
    {distMm : UInt16}
    {colorMode : Couleur}
    {mustStop : Bool}
    (twin : Twin state other)
    (fresh : state.ReadsAfter nbSampleScan (.scan distMm colorMode mustStop))
    (stepped :
      Vision.step? state.vision (.scan distMm colorMode mustStop) =
        some next) :
    ∃ otherNext,
      Vision.step? other (.scan distMm colorMode mustStop) =
          some otherNext ∧
        Twin { vision := next, fresh := state.fresh } otherNext := by
  simp only [Vision.step?, ← twin.scan] at stepped ⊢
  split at stepped
  · cases stepped
  · rename_i thread current
    have enough {point : ColorScan.Pc}
        (inside : thread.pc = .colorScan point) :
        nbSampleScan ≤ state.fresh.recorded := by
      by_cases first : point = .firstRed
      · apply fresh
        simp [State.readPoint?, current, inside, first]
      · exact twin.reading current inside first
    split at stepped
    · cases stepped
    · rename_i present
      cases stepped
      refine ⟨_, if_neg present, ?_, ?_, ?_⟩
      · exact twin.camera.setFlags (scanFlags · thread.pc)
      · exact congrArg some
          (next_congr
            (fun _ inside => twin.camera.line (enough inside)) _ _ _)
      · intro following point found inside notFirst
        cases found
        obtain ⟨before, wasInside⟩ := next_colorScan inside notFirst
        exact enough wasInside

/--
Step lemma: what one run does, the other run does with its own old frames,
and what both have recorded since is the same.
-/
theorem twin_step
    {state next : Tracked}
    {other : State}
    {action : Action}
    (twin : Twin state other)
    (fresh : state.ReadsAfter nbSampleScan action)
    (taken : Tracked.step? state action = some next) :
    ∃ otherNext,
      Vision.step? other action = some otherNext ∧
        Twin next otherNext := by
  obtain ⟨vision, stepped, rfl⟩ := Option.map_eq_some_iff.mp taken
  cases action with
  | capture =>
      obtain ⟨camera, moved, rfl⟩ := Option.map_eq_some_iff.mp stepped
      obtain ⟨otherCamera, otherMoved, same⟩ :=
        twin.camera.captureStep moved
      exact ⟨_, Option.map_eq_some_iff.mpr ⟨_, otherMoved, rfl⟩,
        twin.withCamera same id⟩
  | frameEnd frame =>
      obtain ⟨camera, moved, rfl⟩ := Option.map_eq_some_iff.mp stepped
      obtain ⟨otherCamera, otherMoved, same⟩ := twin.camera.frameEnd moved
      exact ⟨_, Option.map_eq_some_iff.mpr ⟨_, otherMoved, rfl⟩,
        twin.withCamera same id⟩
  | process outside =>
      obtain ⟨camera, moved, rfl⟩ := Option.map_eq_some_iff.mp stepped
      obtain ⟨otherCamera, otherMoved, same⟩ :=
        twin.camera.processStep moved
      have kept := twin.camera.recorded_le_afterProcess
        state.vision.camera.process
      exact ⟨_, Option.map_eq_some_iff.mpr ⟨_, otherMoved, rfl⟩,
        twin.withCamera same fun enough => enough.trans kept⟩
  | scan distMm colorMode mustStop =>
      exact twin.scanStep fresh stepped
  | scanCreate =>
      simp only [Vision.step?, ← twin.scan] at stepped ⊢
      split at stepped
      · rename_i free
        cases stepped
        exact ⟨_, if_pos free, twin.camera, rfl,
          fun found inside => by cases found; cases inside⟩
      · cases stepped
  | mainPause =>
      cases stepped
      exact ⟨_, rfl,
        twin.withCamera (twin.camera.setFlags processImagePauseThd) id⟩

namespace Tracked

/-- Each run of the system can be tracked. -/
theorem run?_of_vision
    {state : Tracked}
    {final : State}
    {actions : List Action}
    (ran : run? Vision.step? state.vision actions = some final) :
    ∃ trackedFinal,
      run? step? state actions = some trackedFinal ∧
        trackedFinal.vision = final := by
  induction actions generalizing state with
  | nil =>
      simp only [run?_nil, Option.some.injEq] at ran
      exact ⟨state, rfl, ran⟩
  | cons action rest inductionHypothesis =>
      obtain ⟨next, taken, later⟩ := run?_cons_eq_some.mp ran
      have trackedTaken :
          step? state action =
            some ⟨next, state.fresh.after state.vision.camera action⟩ := by
        simp only [step?, taken, Option.map_some]
      rw [run?_cons_of_step trackedTaken]
      exact inductionHypothesis later

/-- A tracked run is a run of the system. -/
theorem run?_vision
    {state final : Tracked}
    {actions : List Action}
    (ran : run? step? state actions = some final) :
    run? Vision.step? state.vision actions =
      some final.vision := by
  induction actions generalizing state with
  | nil =>
      simp only [run?_nil, Option.some.injEq] at ran ⊢
      exact congrArg vision ran
  | cons action rest inductionHypothesis =>
      obtain ⟨next, taken, later⟩ := run?_cons_eq_some.mp ran
      obtain ⟨visionNext, stepped, rfl⟩ := Option.map_eq_some_iff.mp taken
      rw [run?_cons_of_step stepped]
      exact inductionHypothesis later

end Tracked

/--
From any two states that differ in the frames they hold, two runs in which
the same frames end at the same steps have the same scanner, with the same
colour, if ten of these frames have been recorded before `color_scan` first
reads a flag.
-/
theorem scan_eq_of_newFrames
    {first second final : State}
    {thread : Scan.Local}
    {actions : List Action}
    (same : SameControl first second)
    (object : first.scan = some thread)
    (resuming : thread.pc = .resumeImage)
    (fresh :
      Along Tracked.step? (Tracked.ReadsAfter nbSampleScan)
        (.start first) actions)
    (ran : run? step? first actions = some final) :
    ∃ otherFinal,
      run? step? second actions = some otherFinal ∧
        otherFinal.scan = final.scan := by
  have initially : Twin (.start first) second := by
    apply twin_start same
    intro found point isFound
    rw [object, Option.some.injEq] at isFound
    subst isFound
    rw [resuming]
    nofun
  obtain ⟨trackedFinal, tracked, rfl⟩ :=
    @Tracked.run?_of_vision (.start first) _ _ ran
  obtain ⟨otherFinal, otherRan, twin⟩ :=
    @run?_lockstep _ _ _ _ _ _ _ id _ twin_step _ _ _ _
      initially fresh tracked
  rw [List.map_id] at otherRan
  exact ⟨otherFinal, otherRan, twin.scan.symm⟩

end EPuckTavern.Vision
