import Mathlib.Logic.Function.Basic
import EPuckTavern.Vision

namespace EPuckTavern.DoubleBuffer

open Transition ProcessImage
open DetectionLine (Memory detectionLine imageBufferSize)

/-!
# The two image buffers under the camera threads

The DMA writes a frame into one image buffer, word after word, while
`ProcessImage` takes the other one apart, pixel after pixel; each frame end
changes the buffers over.  Nothing keeps the DMA from the buffer that
`ProcessImage` still reads once a second frame is on its way.
-/

/-- The words of a transfer: two lines of two bytes a pixel. -/
def wordsOfFrame : Nat := imageBufferSize * 2 * 2 / 4

/-- A word of the DMA in the buffer it fills. -/
def writeWord (buffer : Frame) (word : Nat) (bytes : Fin 4 → UInt8) : Frame :=
  fun place =>
    if inside : 4 * word ≤ place ∧ place < 4 * word + 4 then
      bytes ⟨place - 4 * word, by omega⟩
    else
      buffer place

/-- The camera threads, `Scan` and the two buffers of the DMA. -/
structure State where
  /-- Its `lastImage` and `image` only tell which frames the buffers hold. -/
  camera : ProcessImage.State
  scan : Option Scan.Local
  /-- `image_buff1`, for `false`, and `image_buff2`. -/
  buffers : Bool → Frame
  /-- The buffer being filled: the bit `CT` of the DMA. -/
  current : Bool
  /-- The words of the capture that are in the buffer. -/
  words : Nat
  /-- `img_buff_ptr` -/
  source : Bool
  /-- `i / 2` in the loop that takes the image apart. -/
  copy : Option Nat
  imageRouge : Nat → UInt8
  imageBleu : Nat → UInt8

/-- `malloc` leaves the two buffers as they are. -/
def boot (buffers : Bool → Frame) : State where
  camera := Vision.boot.camera
  scan := none
  buffers := buffers
  current := false
  words := 0
  source := false
  copy := none
  imageRouge := fun _ => 0
  imageBleu := fun _ => 0

/-- A word of the DMA, a statement of a thread, or a call of main. -/
inductive Action where
  | capture
  | word (bytes : Fin 4 → UInt8)
  /-- The last word of a frame, and the frame-end interrupt. -/
  | frameEnd (bytes : Fin 4 → UInt8)
  /-- `ProcessImage`, with what it finds around its arrays. -/
  | process (outside : Memory)
  | scan (distMm : UInt16) (colorMode : Couleur) (mustStop : Bool)
  | scanCreate
  | mainPause

/-- The buffers after a word of the DMA. -/
def State.written (state : State) (bytes : Fin 4 → UInt8) : Bool → Frame :=
  Function.update state.buffers state.current
    (writeWord (state.buffers state.current) state.words bytes)

/-- A pixel of the loop: five bits of red and five of blue. -/
def State.copied (state : State) (index : Nat) : State :=
  { state with
    copy := some (index + 1)
    imageRouge :=
      Function.update state.imageRouge index
        (state.buffers state.source (2 * index) >>> 3)
    imageBleu :=
      Function.update state.imageBleu index
        (state.buffers state.source (2 * index + 1) &&& 0x1F) }

/-- One step of `ProcessImage` on the buffers. -/
def processStep? (outside : Memory) (state : State) : Option State :=
  match state.copy with
  | some index =>
      if index < imageBufferSize then
        some (state.copied index)
      else
        some { state with copy := none }
  | none =>
      match state.camera.process with
      | .getImage =>
          -- `dcmi_get_last_image_ptr` gives the buffer that is not filled.
          some { state with
            source := !state.current
            copy := some 0
            camera := { state.camera with
              process := .storeRawRed
              image := state.camera.lastImage } }
      | .storeRawRed =>
          some { state with
            camera := { state.camera with
              process := .storeRawBlue
              line := { state.camera.line with
                red := detectionLine (placed outside state.imageRouge) } } }
      | .storeRawBlue =>
          some { state with
            camera := { state.camera with
              process := .record
              line := { state.camera.line with
                blue := detectionLine (placed outside state.imageBleu) } } }
      | _ =>
          (ProcessImage.processStep? outside state.camera).map
            ({ state with camera := · })

/-- The DMA writes word by word, `ProcessImage` copies pixel by pixel. -/
def step? : Step State Action
  | state, .capture =>
      (captureStep? state.camera).map ({ state with camera := · })
  | state, .word bytes =>
      if state.camera.capturing ∧ state.words + 1 < wordsOfFrame then
        some { state with
          buffers := state.written bytes
          words := state.words + 1 }
      else
        none
  | state, .frameEnd bytes =>
      if state.words + 1 = wordsOfFrame then
        (frameEnd? (state.written bytes state.current) state.camera).map
          fun camera =>
            { state with
              camera := camera
              buffers := state.written bytes
              current := !state.current
              words := 0 }
      else
        none
  | state, .process outside => processStep? outside state
  | state, .scan distMm colorMode mustStop =>
      (Vision.step? ⟨state.camera, state.scan⟩
          (.scan distMm colorMode mustStop)).map
        fun vision =>
          { state with camera := vision.camera, scan := vision.scan }
  | state, .scanCreate =>
      (Vision.step? ⟨state.camera, state.scan⟩ .scanCreate).map
        fun vision =>
          { state with camera := vision.camera, scan := vision.scan }
  | state, .mainPause =>
      (Vision.step? ⟨state.camera, state.scan⟩ .mainPause).map
        fun vision =>
          { state with camera := vision.camera, scan := vision.scan }

/-- What the model of the camera threads knows of the state. -/
def State.vision (state : State) : Vision.State where
  camera := state.camera
  scan := state.scan

/-- What a step is to the camera threads on whole frames, if it is one. -/
def State.visionActions (state : State) : Action → List Vision.Action
  | .capture => [.capture]
  | .word _ => []
  | .frameEnd bytes => [.frameEnd (state.written bytes state.current)]
  | .process outside => if state.copy.isSome then [] else [.process outside]
  | .scan distMm colorMode mustStop => [.scan distMm colorMode mustStop]
  | .scanCreate => [.scanCreate]
  | .mainPause => [.mainPause]

/--
The DMA does not write on pixels that are still to be copied; the second of
the two lines is never copied.
-/
def CopyAhead (state : State) : Action → Prop
  | .word _ =>
      ∀ index,
        state.copy = some index →
        state.source = state.current →
        4 * (state.words + 1) ≤ 2 * index ∨
          2 * imageBufferSize ≤ 4 * state.words
  | _ => True

instance decidableCopyAhead
    (state : State) :
    ∀ action, Decidable (CopyAhead state action)
  | .word _ =>
      match copying : state.copy with
      | none => .isTrue fun _ here => by simp [copying] at here
      | some index =>
          decidable_of_iff
            (state.source = state.current →
              4 * (state.words + 1) ≤ 2 * index ∨
                2 * imageBufferSize ≤ 4 * state.words)
            (by simp [CopyAhead, copying])
  | .capture | .frameEnd _ | .process _ | .scan _ _ _ | .scanCreate
  | .mainPause =>
      inferInstanceAs (Decidable True)

end EPuckTavern.DoubleBuffer
