import EPuckTavern.ProcessImage
import EPuckTavern.Scan
import EPuckTavern.Transition.Run

namespace EPuckTavern.Vision

open Transition ProcessImage Data
open DetectionLine (detectionLine)

/-!
# The scanner beside the camera threads

`Scan` resumes the camera threads in front of an object, sleeps, reads the
published flags in `color_scan`, and pauses the threads again.  Every read and
write of a flag is a step of its own; the frame-end interrupt can come between
any two steps.
-/

/-- The camera threads, and the scanner if it has been created. -/
structure State where
  camera : ProcessImage.State
  scan : Option Scan.Local

/-- Main has created the camera threads and is about to pause them. -/
def boot : State where
  camera := ProcessImage.boot
  scan := none

/-- One step of a thread, of the interrupt, or of main. -/
inductive Action where
  | capture
  | frameEnd (frame : Frame)
  /-- `ProcessImage`, with what it finds around its arrays. -/
  | process (outside : DetectionLine.Memory)
  /-- The scanner, with what it reads besides the two flags. -/
  | scan (distMm : UInt16) (colorMode : Couleur) (mustStop : Bool)
  /-- Main creates a scanner where none is alive. -/
  | scanCreate
  | mainPause

/-- What `Scan` reads: the distance, the two colours and the mode. -/
def inputOf
    (camera : ProcessImage.State)
    (distMm : UInt16)
    (colorMode : Couleur) : Scan.Input where
  distMm := distMm
  lineRed := camera.line.red
  lineBlue := camera.line.blue
  colorMode := colorMode

/-- `Scan` resumes and pauses `ProcessImage`. -/
def scanFlags (flags : PauseFlags) : Scan.Pc → PauseFlags
  | .resumeImage => processImageResumeThd flags
  | .pauseImage => processImagePauseThd flags
  | _ => flags

/-- No `Scan` thread is left that could go on. -/
def gone : Option Scan.Local → Bool
  | none => true
  | some thread => (Scan.stage thread.pc).hasExited

/-- A statement of a thread, the end of a frame, or a call of main. -/
def step? : Step State Action
  | state, .capture =>
      (captureStep? state.camera).map ({ state with camera := · })
  | state, .frameEnd frame =>
      (frameEnd? frame state.camera).map ({ state with camera := · })
  | state, .process outside =>
      (processStep? outside state.camera).map ({ state with camera := · })
  | state, .scan distMm colorMode mustStop =>
      match state.scan with
      | none => none
      | some thread =>
          if gone state.scan then
            none
          else
            some {
              camera := { state.camera with
                flags := scanFlags state.camera.flags thread.pc }
              scan :=
                some (Scan.next (inputOf state.camera distMm colorMode)
                  mustStop thread)
            }
  | state, .scanCreate =>
      if gone state.scan then
        some { state with scan := some Scan.entry }
      else
        none
  | state, .mainPause =>
      some { state with
        camera := { state.camera with
          flags := processImagePauseThd state.camera.flags } }

/-- Every enabled step, by what it does to the state. -/
theorem step?_cases
    {state next : State}
    {action : Action}
    (taken : step? state action = some next) :
    (∃ camera,
      action = .capture ∧ captureStep? state.camera = some camera ∧
        next = { state with camera := camera }) ∨
      (∃ frame camera,
        action = .frameEnd frame ∧
          frameEnd? frame state.camera = some camera ∧
          next = { state with camera := camera }) ∨
      (∃ outside camera,
        action = .process outside ∧
          processStep? outside state.camera = some camera ∧
          next = { state with camera := camera }) ∨
      (∃ distMm colorMode mustStop thread,
        action = .scan distMm colorMode mustStop ∧
          state.scan = some thread ∧
          next = {
            camera := { state.camera with
              flags := scanFlags state.camera.flags thread.pc }
            scan :=
              some (Scan.next (inputOf state.camera distMm colorMode)
                mustStop thread) }) ∨
      (action = .scanCreate ∧
        next = { state with scan := some Scan.entry }) ∨
      (action = .mainPause ∧
        next = { state with
          camera := { state.camera with
            flags := processImagePauseThd state.camera.flags } }) := by
  cases action with
  | capture =>
      obtain ⟨camera, moved, rfl⟩ := Option.map_eq_some_iff.mp taken
      exact .inl ⟨camera, rfl, moved, rfl⟩
  | frameEnd frame =>
      obtain ⟨camera, ended, rfl⟩ := Option.map_eq_some_iff.mp taken
      exact .inr (.inl ⟨frame, camera, rfl, ended, rfl⟩)
  | process outside =>
      obtain ⟨camera, processed, rfl⟩ := Option.map_eq_some_iff.mp taken
      exact .inr (.inr (.inl ⟨outside, camera, rfl, processed, rfl⟩))
  | scan distMm colorMode mustStop =>
      simp only [step?] at taken
      split at taken
      · cases taken
      · rename_i thread current
        split at taken
        · cases taken
        · cases taken
          exact .inr (.inr (.inr (.inl
            ⟨distMm, colorMode, mustStop, thread, rfl, current, rfl⟩)))
  | scanCreate =>
      simp only [step?] at taken
      split at taken
      · cases taken
        exact .inr (.inr (.inr (.inr (.inl ⟨rfl, rfl⟩))))
      · cases taken
  | mainPause =>
      cases taken
      exact .inr (.inr (.inr (.inr (.inr ⟨rfl, rfl⟩))))

/-- The statement of `color_scan` that the scanner executes in a step. -/
def State.readPoint? (state : State) : Action → Option ColorScan.Pc
  | .scan .. =>
      match state.scan.map Scan.Local.pc with
      | some (.colorScan point) => some point
      | _ => none
  | _ => none

/-- The two raw results of a frame. -/
def detect (outside : DetectionLine.Memory) (frame : Frame) : Detection where
  red := detectionLine (placed outside (imageRouge frame))
  blue := detectionLine (placed outside (imageBleu frame))

/-- The windows after some more frames. -/
def recordAll
    (outside : DetectionLine.Memory)
    (window : VoteWindow)
    (frames : List Frame) : VoteWindow :=
  (frames.map (detect outside)).foldl RingBuffer.push window

/-- The classification that `color_scan` is meant to make of one pair. -/
def classify (pair : Detection) : Couleur :=
  if pair.red && pair.blue then
    .noir
  else if !pair.red && pair.blue then
    .rouge
  else
    .autre

/-- Bright pixels around a hundred dark ones. -/
def darkLine : Frame :=
  fun byte => if 200 ≤ byte ∧ byte < 400 then 0 else 0xFF

/-- The scanner, in front of an object at its scanning distance. -/
def scanStep : Action :=
  .scan 200 .noir false

end EPuckTavern.Vision
