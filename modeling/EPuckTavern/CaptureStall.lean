import EPuckTavern.Vision

namespace EPuckTavern.Vision

open Transition ProcessImage

/-!
# A frame that ends before `CaptureImage` waits for it

`wait_image_ready` blocks on a condition variable without testing
`image_ready`, and the frame-end interrupt wakes a blocked thread only.  So a
frame that ends between `dcmi_capture_start` and the wait is lost: the thread
then waits for an interrupt that no capture is going to raise.
-/

/-- `CaptureImage` waits for a frame, and no capture is in progress. -/
def Stalled (camera : ProcessImage.State) : Prop :=
  camera.capture = .waiting ∧ camera.capturing = false

/-- The capture has been started and `CaptureImage` is not blocked yet. -/
def BetweenStartAndWait (camera : ProcessImage.State) : Prop :=
  camera.capture = .waitImageReady

/-- No frame ends before the thread waits for it. -/
def FrameAwaited (state : State) : Action → Prop
  | .frameEnd _ => ¬ BetweenStartAndWait state.camera
  | _ => True

/-- The capture that `CaptureImage` waits for, or is going to, is running. -/
def CaptureRunning (camera : ProcessImage.State) : Prop :=
  camera.capture = .waitImageReady ∨ camera.capture = .waiting →
    camera.capturing = true

/-- `CaptureImage` starts a capture before it waits for its end. -/
theorem captureRunning_capture
    {camera next : ProcessImage.State}
    (running : CaptureRunning camera)
    (taken : captureStep? camera = some next) :
    CaptureRunning next := by
  simp only [captureStep?] at taken
  cases here : camera.capture with
  | testPaused =>
      simp only [here] at taken
      split at taken <;> cases taken <;> simp [CaptureRunning]
  | captureStart =>
      simp only [here] at taken
      cases taken
      exact fun _ => rfl
  | waitImageReady =>
      simp only [here] at taken
      cases taken
      exact fun _ => running (.inl here)
  | waiting =>
      simp only [here] at taken
      cases taken
  | sleepPaused | signal =>
      simp only [here] at taken
      cases taken
      simp [CaptureRunning]

/-- The end of a frame that somebody waits for wakes `CaptureImage`. -/
theorem captureRunning_frameEnd
    {camera next : ProcessImage.State}
    {frame : Frame}
    (awaited : ¬ BetweenStartAndWait camera)
    (taken : frameEnd? frame camera = some next) :
    CaptureRunning next := by
  simp only [frameEnd?] at taken
  split at taken
  · cases taken
    by_cases waiting : camera.capture = .waiting
    · simp [CaptureRunning, waiting]
    · rw [BetweenStartAndWait] at awaited
      simp [CaptureRunning, waiting, awaited]
  · cases taken

/-- `ProcessImage` has no part in captures. -/
theorem processStep?_capture
    {outside : DetectionLine.Memory}
    {camera next : ProcessImage.State}
    (taken : processStep? outside camera = some next) :
    next.capture = camera.capture ∧ next.capturing = camera.capturing := by
  simp only [processStep?] at taken
  split at taken
  case h_1 | h_3 =>
    split at taken <;> cases taken <;> exact ⟨rfl, rfl⟩
  all_goals
    cases taken
    exact ⟨rfl, rfl⟩

/-- Steps of threads other than `CaptureImage` have no part in captures. -/
theorem step?_capture
    {state next : State}
    {action : Action}
    (taken : step? state action = some next)
    (other : action ≠ .capture)
    (quiet : ∀ frame, action ≠ .frameEnd frame) :
    next.camera.capture = state.camera.capture ∧
      next.camera.capturing = state.camera.capturing := by
  rcases step?_cases taken with
    ⟨camera, capturing, -⟩ |
    ⟨frame, camera, ending, -⟩ |
    ⟨outside, camera, -, processed, rfl⟩ |
    ⟨distMm, colorMode, mustStop, thread, -, -, rfl⟩ |
    ⟨-, rfl⟩ |
    ⟨-, rfl⟩
  · exact (other capturing).elim
  · exact (quiet frame ending).elim
  · exact processStep?_capture processed
  · exact ⟨rfl, rfl⟩
  · exact ⟨rfl, rfl⟩
  · exact ⟨rfl, rfl⟩

/-- Step lemma: every frame but an early one finds its thread waiting. -/
theorem captureRunning_step
    {state next : State}
    {action : Action}
    (running : CaptureRunning state.camera)
    (awaited : FrameAwaited state action)
    (taken : step? state action = some next) :
    CaptureRunning next.camera := by
  cases action with
  | capture =>
      obtain ⟨camera, moved, rfl⟩ := Option.map_eq_some_iff.mp taken
      exact captureRunning_capture running moved
  | frameEnd frame =>
      obtain ⟨camera, ended, rfl⟩ := Option.map_eq_some_iff.mp taken
      exact captureRunning_frameEnd awaited ended
  | _ =>
      obtain ⟨capture, capturing⟩ := step?_capture taken (by simp) (by simp)
      rw [CaptureRunning, capture, capturing]
      exact running

/--
In every run in which no frame ends between `dcmi_capture_start` and the wait
for it, whatever the threads and the interrupt do otherwise, `CaptureImage`
never waits while no capture is in progress.
-/
theorem not_stalled_of_frameAwaited
    {actions : List Action}
    {final : State}
    (awaited : Along step? FrameAwaited boot actions)
    (ran : run? step? boot actions = some final) :
    ¬ Stalled final.camera := by
  have initially : CaptureRunning boot.camera := fun waits => nomatch waits
  have running : CaptureRunning final.camera :=
    run?_invariant_along captureRunning_step initially awaited ran
  rintro ⟨waiting, idle⟩
  exact absurd (idle.symm.trans (running (.inr waiting)))
    Bool.false_ne_true

/-- One capture whose frame ends while `CaptureImage` waits for it. -/
def awaitedCapture : List Action :=
  [.capture, .capture, .capture, .frameEnd darkLine, .capture]

theorem awaitedCapture_not_stalled :
    ¬ Stalled
      ((run? step? boot awaitedCapture).getD boot).camera :=
  @not_stalled_of_frameAwaited awaitedCapture _
    ⟨trivial, trivial, trivial, nofun, trivial, trivial⟩
    (run?_eq_some_getD rfl)

/--
The condition is exact: an early frame end stalls the thread with its very
next step.
-/
theorem stalled_of_early_frameEnd
    {state ended : State}
    {frame : Frame}
    (early : BetweenStartAndWait state.camera)
    (taken : step? state (.frameEnd frame) = some ended) :
    ∃ next,
      step? ended .capture = some next ∧ Stalled next.camera := by
  obtain ⟨camera, fired, rfl⟩ := Option.map_eq_some_iff.mp taken
  simp only [frameEnd?] at fired
  split at fired
  · cases fired
    rw [BetweenStartAndWait] at early
    simp [step?, captureStep?, early, Stalled]
  · cases fired

/-- Nothing wakes the thread: a stall lasts through every step. -/
theorem stalled_step
    {state next : State}
    {action : Action}
    (stalled : Stalled state.camera)
    (taken : step? state action = some next) :
    Stalled next.camera := by
  obtain ⟨waiting, idle⟩ := stalled
  cases action with
  | capture =>
      simp [step?, captureStep?, waiting] at taken
  | frameEnd frame =>
      simp [step?, frameEnd?, idle] at taken
  | _ =>
      obtain ⟨capture, capturing⟩ := step?_capture taken (by simp) (by simp)
      exact ⟨capture.trans waiting, capturing.trans idle⟩

/-- The interrupt comes right after `dcmi_capture_start`. -/
def earlyCapture : List Action :=
  [.capture, .capture, .frameEnd darkLine, .capture]

/-- So the camera does stall in some run. -/
theorem capture_stalls :
    ¬ ∀ actions final,
      run? step? boot actions = some final →
        ¬ Stalled final.camera := by
  intro never
  have ran :
      run? step? boot earlyCapture =
        some { boot with
          camera := { boot.camera with
            capture := .waiting, lastImage := darkLine } } :=
    rfl
  exact never _ _ ran ⟨rfl, rfl⟩

end EPuckTavern.Vision
