import EPuckTavern.DoubleBuffer

namespace EPuckTavern.DoubleBuffer

open Transition ProcessImage
open DetectionLine (Memory detectionLine imageBufferSize)

/-!
# Whole frames

While the copy of a frame stays ahead of the DMA, `ProcessImage` works on whole
frames, the last that have ended when it asks for them: the camera threads on
two buffers are then the camera threads on frames that change at once.
-/

/-- No frame has ended, and nothing waits to be processed. -/
def NoFrame (camera : ProcessImage.State) : Prop :=
  camera.imageReady = false ∧ camera.capture ≠ .signal ∧
    (camera.process = .testPaused ∨ camera.process = .sleepPaused ∨
      camera.process = .semWait)

/-- The pixels of a frame that have been copied. -/
def Copied (state : State) (count : Nat) : Prop :=
  ∀ index,
    index < count →
    state.imageRouge index = imageRouge state.camera.image index ∧
      state.imageBleu index = imageBleu state.camera.image index

/-- The buffers and the two channels hold the frames that they should. -/
structure Whole (state : State) : Prop where
  last :
    state.camera.lastImage = state.buffers (!state.current) ∨
      NoFrame state.camera
  copying :
    ∀ index,
      state.copy = some index →
      state.camera.process = .storeRawRed ∧
        index ≤ imageBufferSize ∧
        Copied state index ∧
        ∀ place,
          2 * index ≤ place →
          place < 2 * imageBufferSize →
          state.buffers state.source place = state.camera.image place
  copied :
    state.copy = none →
    state.camera.process = .storeRawRed ∨
      state.camera.process = .storeRawBlue →
    Copied state imageBufferSize

theorem whole_boot
    (buffers : Bool → Frame) :
    Whole (boot buffers) where
  last :=
    .inr ⟨rfl, by simp [boot, Vision.boot, ProcessImage.boot], .inl rfl⟩
  copying _ impossible := by cases impossible
  copied _ impossible := by rcases impossible with h | h <;> cases h

theorem placed_congr
    {outside : Memory}
    {first second : Nat → UInt8}
    (same : ∀ index, index < imageBufferSize → first index = second index) :
    placed outside first = placed outside second := by
  funext index
  unfold placed
  split
  · rename_i within
    exact same index.toNat (by omega)
  · rfl

/-- `CaptureImage` leaves frames alone, and signals none that has not ended. -/
theorem captureStep?_frames
    {camera next : ProcessImage.State}
    (taken : captureStep? camera = some next) :
    next.lastImage = camera.lastImage ∧ (NoFrame camera → NoFrame next) := by
  simp only [captureStep?] at taken
  cases here : camera.capture with
  | testPaused =>
      simp only [here] at taken
      split at taken <;> cases taken <;> exact
        ⟨rfl, fun none => ⟨none.1, by simp, none.2.2⟩⟩
  | captureStart | waitImageReady | sleepPaused =>
      simp only [here] at taken
      cases taken
      exact ⟨rfl, fun none => ⟨none.1, by simp, none.2.2⟩⟩
  | waiting =>
      simp only [here] at taken
      cases taken
  | signal =>
      simp only [here] at taken
      cases taken
      exact ⟨rfl, fun none => (none.2.1 here).elim⟩

/-- Steps that leave frames and processing alone. -/
theorem Whole.withCamera
    {state : State}
    {camera : ProcessImage.State}
    (whole : Whole state)
    (process : camera.process = state.camera.process)
    (image : camera.image = state.camera.image)
    (lastImage : camera.lastImage = state.camera.lastImage)
    (noFrame : NoFrame state.camera → NoFrame camera)
    (scan : Option Scan.Local) :
    Whole { state with camera := camera, scan := scan } where
  last := whole.last.imp (fun last => lastImage.trans last) noFrame
  copying index here := by
    obtain ⟨storing, within, copied, toCopy⟩ := whole.copying index here
    refine ⟨process.trans storing, within, fun pixel before => ?_,
      fun place from_ below => ?_⟩
    · simp only [image]
      exact copied pixel before
    · simp only [image]
      exact toCopy place from_ below
  copied here storing := fun pixel before => by
    simp only [image]
    exact whole.copied here (by rwa [process] at storing) pixel before

/--
A word behind the copy, or behind the image, leaves the copied pixels alone.
-/
theorem writeWord_of_ahead
    {buffer : Frame}
    {word from_ place : Nat}
    (bytes : Fin 4 → UInt8)
    (ahead :
      4 * (word + 1) ≤ from_ ∨ 2 * imageBufferSize ≤ 4 * word)
    (notBefore : from_ ≤ place)
    (below : place < 2 * imageBufferSize) :
    writeWord buffer word bytes place = buffer place := by
  unfold writeWord
  rw [dif_neg]
  omega

/-- A word of the DMA is written ahead of the copy, or in the other buffer. -/
theorem Whole.written
    {state : State}
    (whole : Whole state)
    (bytes : Fin 4 → UInt8)
    (ahead : CopyAhead state (.word bytes)) :
    ∀ index,
      state.copy = some index →
      ∀ place,
        2 * index ≤ place →
        place < 2 * imageBufferSize →
        state.written bytes state.source place =
          state.camera.image place := by
  intro index here place notBefore below
  obtain ⟨-, -, -, toCopy⟩ := whole.copying index here
  rw [← toCopy place notBefore below, State.written]
  by_cases same : state.source = state.current
  · rw [same, Function.update_self]
    exact writeWord_of_ahead bytes (ahead index here same) notBefore below
  · rw [Function.update_of_ne same]

/-- A word that keeps behind the copy changes nothing that the threads see. -/
theorem whole_word
    {state next : State}
    {bytes : Fin 4 → UInt8}
    (whole : Whole state)
    (ahead : CopyAhead state (.word bytes))
    (taken : step? state (.word bytes) = some next) :
    Whole next ∧ next.vision = state.vision := by
  simp only [step?] at taken
  split at taken
  · cases taken
    refine ⟨⟨?_, fun index here => ?_, whole.copied⟩, rfl⟩
    · refine whole.last.imp (fun last => ?_) id
      simp [State.written, last]
    · obtain ⟨storing, within, copied, -⟩ := whole.copying index here
      exact ⟨storing, within, copied, whole.written bytes ahead index here⟩
  · cases taken

/-- With its last word a frame is in its buffer as a whole. -/
theorem whole_frameEnd
    {state next : State}
    {bytes : Fin 4 → UInt8}
    (whole : Whole state)
    (taken : step? state (.frameEnd bytes) = some next) :
    Whole next ∧
      Vision.step? state.vision
          (.frameEnd (state.written bytes state.current)) =
        some next.vision := by
  simp only [step?] at taken
  split at taken
  · rename_i lastWord
    obtain ⟨camera, ended, rfl⟩ := Option.map_eq_some_iff.mp taken
    -- The last word lies in the line that is never copied.
    have ahead : CopyAhead state (.word bytes) := by
      intro index _ _
      right
      simp only [wordsOfFrame] at lastWord
      simp only [imageBufferSize] at lastWord ⊢
      omega
    have processing := frameEnd?_processing ended
    refine ⟨⟨.inl ?_, fun index here => ?_, fun here storing => ?_⟩, ?_⟩
    · simp only [frameEnd?] at ended
      split at ended
      · cases ended
        simp
      · cases ended
    · obtain ⟨storing, within, copied, -⟩ := whole.copying index here
      refine ⟨processing.process.trans storing, within,
        fun pixel before => ?_, fun place notBefore below => ?_⟩
      · simp only [processing.image]
        exact copied pixel before
      · simp only [processing.image]
        exact whole.written bytes ahead index here place notBefore below
    · intro pixel before
      simp only [processing.image]
      exact whole.copied here (by rwa [processing.process] at storing) pixel
        before
    · simp [Vision.step?, State.vision, ended]
  · cases taken

/-- The other steps of `ProcessImage` have no part in frames. -/
theorem processStep?_frames
    {outside : Memory}
    {camera next : ProcessImage.State}
    (taken : ProcessImage.processStep? outside camera = some next)
    (notGet : camera.process ≠ .getImage)
    (notRed : camera.process ≠ .storeRawRed) :
    next.lastImage = camera.lastImage ∧
      (NoFrame camera → NoFrame next) ∧
      (camera.process ≠ .storeRawBlue →
        next.process ≠ .storeRawRed ∧ next.process ≠ .storeRawBlue) := by
  simp only [ProcessImage.processStep?] at taken
  cases here : camera.process with
  | getImage => exact (notGet here).elim
  | storeRawRed => exact (notRed here).elim
  | testPaused =>
      simp only [here] at taken
      split at taken
      · cases taken
        exact ⟨rfl, fun none => ⟨none.1, none.2.1, .inr (.inr rfl)⟩, by simp⟩
      · cases taken
        exact ⟨rfl, fun none => ⟨none.1, none.2.1, .inr (.inl rfl)⟩, by simp⟩
  | sleepPaused =>
      simp only [here] at taken
      cases taken
      exact ⟨rfl, fun none => ⟨none.1, none.2.1, .inl rfl⟩, by simp⟩
  | semWait =>
      simp only [here] at taken
      split at taken
      · rename_i ready
        cases taken
        exact ⟨rfl,
          fun none => absurd (none.1.symm.trans ready) Bool.false_ne_true,
          by simp⟩
      · cases taken
  | storeRawBlue | record | storeVoteRed | storeVoteBlue =>
      simp only [here] at taken
      cases taken
      exact ⟨rfl, fun none => by
        rcases none.2.2 with h | h | h <;> simp [here] at h, by simp⟩

/-- Whatever is processed comes from a frame that has ended. -/
theorem Whole.last_of_processing
    {state : State}
    (whole : Whole state)
    (processing :
      state.camera.process = .getImage ∨
        state.camera.process = .storeRawRed ∨
        state.camera.process = .storeRawBlue) :
    state.camera.lastImage = state.buffers (!state.current) := by
  refine whole.last.resolve_right fun none => ?_
  rcases none.2.2 with here | here | here <;> simp [here] at processing

/-- A round of the copy changes nothing that the threads see. -/
theorem whole_copy
    {outside : Memory}
    {state next : State}
    {index : Nat}
    (whole : Whole state)
    (copying : state.copy = some index)
    (taken : step? state (.process outside) = some next) :
    Whole next ∧ next.vision = state.vision := by
  obtain ⟨storing, within, copied, toCopy⟩ := whole.copying index copying
  simp only [step?, processStep?, copying] at taken
  split at taken
  · rename_i more
    cases taken
    refine ⟨⟨whole.last, fun count here => ?_, by simp [State.copied]⟩, rfl⟩
    cases here
    refine ⟨storing, more, fun pixel before => ?_,
      fun place notBefore below => toCopy place (by omega) below⟩
    by_cases own : pixel = index
    · subst own
      simp only [State.copied, Function.update_self,
        toCopy (2 * pixel) (Nat.le_refl _) (by omega),
        toCopy (2 * pixel + 1) (by omega) (by omega)]
      exact ⟨rfl, rfl⟩
    · simp only [State.copied, Function.update_of_ne own]
      exact copied pixel (by omega)
  · rename_i atEnd
    cases taken
    have all : index = imageBufferSize := by omega
    subst all
    exact ⟨⟨whole.last, by simp, fun _ _ => copied⟩, rfl⟩

/-- Outside the copy, `ProcessImage` works on the frame it has copied. -/
theorem whole_processing
    {outside : Memory}
    {state next : State}
    (whole : Whole state)
    (copying : state.copy = none)
    (taken : step? state (.process outside) = some next) :
    Whole next ∧
      run? Vision.step? state.vision [.process outside] =
        some next.vision := by
  have copied := whole.copied copying
  simp only [step?, processStep?, copying] at taken
  cases here : state.camera.process with
  | getImage =>
      simp only [here] at taken
      cases taken
      have last := whole.last_of_processing (.inl here)
      refine ⟨⟨.inl last, fun index begun => ?_, by simp⟩,
        run?_cons_of_step ?_ []⟩
      · cases begun
        exact ⟨rfl, Nat.zero_le _, by simp [Copied],
          fun place _ _ => by simp [last]⟩
      · simp [Vision.step?, State.vision, ProcessImage.processStep?, here]
  | storeRawRed =>
      simp only [here] at taken
      cases taken
      have whole' := copied (.inl here)
      have last := whole.last_of_processing (.inr (.inl here))
      refine ⟨⟨.inl last, fun _ begun => ?_, fun _ _ => whole'⟩,
        run?_cons_of_step ?_ []⟩
      · simp at begun
      · have red :=
          @placed_congr outside _ _ fun index below =>
            (whole' index below).1
        simp [Vision.step?, State.vision, ProcessImage.processStep?, here,
          red]
  | storeRawBlue =>
      simp only [here] at taken
      cases taken
      have whole' := copied (.inr here)
      have last := whole.last_of_processing (.inr (.inr here))
      refine ⟨⟨.inl last, fun _ begun => ?_, fun _ _ => whole'⟩,
        run?_cons_of_step ?_ []⟩
      · simp at begun
      · have blue :=
          @placed_congr outside _ _ fun index below =>
            (whole' index below).2
        simp [Vision.step?, State.vision, ProcessImage.processStep?, here,
          blue]
  | testPaused | sleepPaused | semWait | record | storeVoteRed
  | storeVoteBlue =>
      simp only [here] at taken
      obtain ⟨camera, moved, rfl⟩ := Option.map_eq_some_iff.mp taken
      obtain ⟨lastImage, noFrame, notStoring⟩ :=
        processStep?_frames moved (by simp [here]) (by simp [here])
      have stored := notStoring (by simp [here])
      refine ⟨⟨?_, fun _ begun => ?_, fun _ storing => ?_⟩,
        run?_cons_of_step ?_ []⟩
      · exact whole.last.imp (fun last => lastImage.trans last) noFrame
      · simp at begun
      · rcases storing with storing | storing
        · exact (stored.1 storing).elim
        · exact (stored.2 storing).elim
      · simp [Vision.step?, State.vision, moved]

/-- `ProcessImage` copies the frame that it took, pixel by pixel. -/
theorem whole_process
    {outside : Memory}
    {state next : State}
    (whole : Whole state)
    (taken : step? state (.process outside) = some next) :
    Whole next ∧
      run? Vision.step? state.vision
          (state.visionActions (.process outside)) =
        some next.vision := by
  cases copying : state.copy with
  | some index =>
      obtain ⟨wholeNext, unseen⟩ := whole_copy whole copying taken
      refine ⟨wholeNext, ?_⟩
      rw [unseen]
      simp [State.visionActions, copying]
  | none =>
      have shows :
          state.visionActions (.process outside) = [.process outside] := by
        simp [State.visionActions, copying]
      rw [shows]
      exact whole_processing whole copying taken

/-- The other threads change no more than the flags of the camera threads. -/
theorem flags_of_vision_step
    {state next : Vision.State}
    {action : Vision.Action}
    (taken : Vision.step? state action = some next)
    (notCapture : action ≠ .capture)
    (notFrameEnd : ∀ frame, action ≠ .frameEnd frame)
    (notProcess : ∀ outside, action ≠ .process outside) :
    ∃ flags, next.camera = { state.camera with flags := flags } := by
  rcases Vision.step?_cases taken with
    ⟨_, capturing, -⟩ | ⟨frame, _, ending, -⟩ | ⟨outside, _, processing, -⟩ |
    ⟨_, _, _, thread, -, -, rfl⟩ | ⟨-, rfl⟩ | ⟨-, rfl⟩
  · exact (notCapture capturing).elim
  · exact (notFrameEnd frame ending).elim
  · exact (notProcess outside processing).elim
  · exact ⟨_, rfl⟩
  · exact ⟨_, rfl⟩
  · exact ⟨_, rfl⟩

/-- The other steps leave buffers and copies alone. -/
theorem Whole.withFlags
    {state : State}
    {vision : Vision.State}
    {action : Vision.Action}
    (whole : Whole state)
    (taken : Vision.step? state.vision action = some vision)
    (notCapture : action ≠ .capture)
    (notFrameEnd : ∀ frame, action ≠ .frameEnd frame)
    (notProcess : ∀ outside, action ≠ .process outside) :
    Whole { state with camera := vision.camera, scan := vision.scan } := by
  obtain ⟨flags, camera⟩ :=
    flags_of_vision_step taken notCapture notFrameEnd notProcess
  refine whole.withCamera ?_ ?_ ?_ (fun none => ?_) vision.scan
  · rw [camera]
    rfl
  · rw [camera]
    rfl
  · rw [camera]
    rfl
  · rw [camera]
    exact none

/-- Step lemma: a step on the buffers is a step on whole frames, or none. -/
theorem whole_step
    {state next : State}
    {action : Action}
    (whole : Whole state)
    (ahead : CopyAhead state action)
    (taken : step? state action = some next) :
    Whole next ∧
      run? Vision.step? state.vision (state.visionActions action) =
        some next.vision := by
  cases action with
  | capture =>
      obtain ⟨camera, moved, rfl⟩ := Option.map_eq_some_iff.mp taken
      have processing := captureStep?_processing moved
      obtain ⟨lastImage, noFrame⟩ := captureStep?_frames moved
      exact
        ⟨whole.withCamera processing.process processing.image lastImage
            noFrame state.scan,
          run?_cons_of_step
            (by simp [Vision.step?, State.vision, moved]) []⟩
  | word bytes =>
      obtain ⟨kept, same⟩ := whole_word whole ahead taken
      exact ⟨kept, congrArg some same.symm⟩
  | frameEnd bytes =>
      obtain ⟨kept, moved⟩ := whole_frameEnd whole taken
      exact ⟨kept, run?_cons_of_step moved []⟩
  | process outside => exact whole_process whole taken
  | scan distMm colorMode mustStop =>
      obtain ⟨vision, moved, rfl⟩ := Option.map_eq_some_iff.mp taken
      exact ⟨whole.withFlags moved (by simp) (by simp) (by simp),
        run?_cons_of_step moved []⟩
  | scanCreate =>
      obtain ⟨vision, moved, rfl⟩ := Option.map_eq_some_iff.mp taken
      exact ⟨whole.withFlags moved (by simp) (by simp) (by simp),
        run?_cons_of_step moved []⟩
  | mainPause =>
      cases taken
      let paused : ProcessImage.State :=
        { state.camera with
          flags := processImagePauseThd state.camera.flags }
      exact ⟨@Whole.withCamera state paused whole rfl rfl rfl id state.scan,
        run?_cons_of_step rfl []⟩

/-- Run lemma: while the copy stays ahead, all steps are on whole frames. -/
theorem run?_vision
    {buffers : Bool → Frame}
    {actions : List Action}
    {final : State}
    (ahead : Along step? CopyAhead (boot buffers) actions)
    (ran : run? step? (boot buffers) actions = some final) :
    run? Vision.step? Vision.boot
        (trace step? State.visionActions (boot buffers) actions) =
      some final.vision :=
  run?_trace_of_refines
    (fun whole meets taken => (whole_step whole meets taken).1)
    (fun whole meets taken => (whole_step whole meets taken).2)
    (whole_boot buffers) ahead ran

/--
Refinement: in every interleaving in which the copy of a frame stays ahead of
the DMA, whatever is in the buffers at first and around the arrays later, the
camera threads and the scanner on two buffers do, step by step, what they do
on frames that change at once.
-/
theorem vision_of_copyAhead
    {buffers : Bool → Frame}
    {actions : List Action}
    {final : State}
    (ahead : Along step? CopyAhead (boot buffers) actions)
    (ran : run? step? (boot buffers) actions = some final) :
    run? Vision.step? Vision.boot
        (trace step? State.visionActions (boot buffers) actions) =
      some final.vision :=
  run?_vision ahead ran

/-- The words of a frame, all of one value. -/
def wholeFrame (value : UInt8) : List Action :=
  [.capture, .capture, .capture] ++
    List.replicate (wordsOfFrame - 1) (.word fun _ => value) ++
    [.frameEnd fun _ => value, .capture]

/-- The DMA comes back to the buffer that is copied, behind the copy. -/
def caughtUp : List Action :=
  wholeFrame 7 ++ List.replicate 6 (.process fun _ => 0) ++ wholeFrame 9 ++
    [.capture, .capture, .capture, .word fun _ => 11, .process fun _ => 0]

theorem vision_of_copyAhead_caughtUp :
    run? Vision.step? Vision.boot
        (trace step? State.visionActions (boot fun _ _ => 0) caughtUp) =
      some ((run? step? (boot fun _ _ => 0) caughtUp).getD
        (boot fun _ _ => 0)).vision :=
  @vision_of_copyAhead (fun _ _ => 0) caughtUp _
    (by decide +kernel)
    (run?_eq_some_getD (by decide +kernel))

/-- No frame ends while an image is being copied. -/
def CopiesBetweenFrames (state : State) : Action → Prop
  | .frameEnd _ => state.copy = none
  | _ => True

/-- The image is copied from the buffer that is not filled. -/
def Apart (state : State) : Prop :=
  state.copy ≠ none → state.source = !state.current

/-- `ProcessImage` takes its image from the other buffer. -/
theorem apart_process
    {outside : Memory}
    {state next : State}
    (apart : Apart state)
    (taken : processStep? outside state = some next) :
    Apart next := by
  simp only [processStep?] at taken
  cases copying : state.copy with
  | some index =>
      have source := apart (by simp [copying])
      simp only [copying] at taken
      split at taken
      · cases taken
        exact fun _ => source
      · cases taken
        exact fun copies => (copies rfl).elim
  | none =>
      simp only [copying] at taken
      cases here : state.camera.process with
      | getImage =>
          simp only [here] at taken
          cases taken
          exact fun _ => rfl
      | storeRawRed | storeRawBlue =>
          simp only [here] at taken
          cases taken
          exact fun copies => (copies rfl).elim
      | testPaused | sleepPaused | semWait | record | storeVoteRed
      | storeVoteBlue =>
          simp only [here] at taken
          obtain ⟨camera, -, rfl⟩ := Option.map_eq_some_iff.mp taken
          exact fun copies => (copies rfl).elim

/-- Between frames, source and target of the DMA stay apart. -/
theorem apart_step
    {state next : State}
    {action : Action}
    (apart : Apart state)
    (between : CopiesBetweenFrames state action)
    (taken : step? state action = some next) :
    Apart next := by
  cases action with
  | process outside => exact apart_process apart taken
  | word bytes =>
      simp only [step?] at taken
      split at taken
      · cases taken
        exact apart
      · cases taken
  | frameEnd bytes =>
      simp only [step?] at taken
      split at taken
      · obtain ⟨camera, -, rfl⟩ := Option.map_eq_some_iff.mp taken
        exact fun copies => (copies between).elim
      · cases taken
  | capture | scan | scanCreate =>
      obtain ⟨_, -, rfl⟩ := Option.map_eq_some_iff.mp taken
      exact apart
  | mainPause =>
      cases taken
      exact apart

/--
It is enough that a copy takes less than a frame: in every interleaving in
which no frame ends while an image is being copied, the threads on two buffers
do what they do on frames that change at once.
-/
theorem vision_of_copiesBetweenFrames
    {buffers : Bool → Frame}
    {actions : List Action}
    {final : State}
    (between : Along step? CopiesBetweenFrames (boot buffers) actions)
    (ran : run? step? (boot buffers) actions = some final) :
    run? Vision.step? Vision.boot
        (trace step? State.visionActions (boot buffers) actions) =
      some final.vision := by
  refine run?_vision
    (between.consequence apart_step ?_ fun copies => (copies rfl).elim) ran
  intro state action next apart _ _
  cases action with
  | word bytes =>
      intro index copying same
      have source := apart (by simp [copying])
      simp [same] at source
  | _ => trivial

end EPuckTavern.DoubleBuffer
