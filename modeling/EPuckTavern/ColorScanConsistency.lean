import EPuckTavern.Vision

namespace EPuckTavern.Vision

open Transition ProcessImage

/-!
# When `color_scan` reads one pair of votes

`color_scan` reads the two published flags up to four times, without a lock,
while `ProcessImage` writes them up to four times for each frame.  A record
beside the system keeps every pair of votes that has been computed, the pair
published last, and the pair published at the start of the call.
-/

/-- The system with the record of its votes. -/
structure Observed where
  vision : State
  /-- The initial pair and the votes of each frame. -/
  computed : List Detection
  published : Detection
  /-- What was published when `color_scan` first read a flag. -/
  atCall : Detection

namespace Observed

/-- One pair of colours has been computed when the robot starts: none. -/
def boot : Observed where
  vision := Vision.boot
  computed := [⟨false, false⟩]
  published := ⟨false, false⟩
  atCall := ⟨false, false⟩

/-- Votes are computed from the windows as soon as a frame is recorded. -/
def computedAfter (state : Observed) (next : State) : Action → List Detection
  | .process _ =>
      if state.vision.camera.process = .record then
        votes next.camera.window :: state.computed
      else
        state.computed
  | _ => state.computed

/-- A pair is published when both its flags are stored. -/
def publishedAfter (state : Observed) : Action → Detection
  | .process _ =>
      if state.vision.camera.process = .storeVoteBlue then
        votes state.vision.camera.window
      else
        state.published
  | _ => state.published

/-- The pair that stood there when the scan in progress began. -/
def atCallAfter (state : Observed) (action : Action) : Detection :=
  if state.vision.readPoint? action = some .firstRed then
    state.published
  else
    state.atCall

/-- A step of the camera threads and `Scan`, with what has been seen so far. -/
def step? : Step Observed Action :=
  fun state action =>
    (Vision.step? state.vision action).map fun next =>
      { vision := next
        computed := state.computedAfter next action
        published := state.publishedAfter action
        atCall := state.atCallAfter action }

/--
A read of `color_scan` sees the vote published last, and that pair is still
the one that was published at the start of the call.
-/
def readsPublished (state : Observed) (action : Action) : Bool :=
  let line := state.vision.camera.line
  match state.vision.readPoint? action with
  | some .firstRed => line.red = state.published.red
  | some .secondRed =>
      line.red = state.published.red ∧ state.published = state.atCall
  | some .firstBlue | some .secondBlue =>
      line.blue = state.published.blue ∧ state.published = state.atCall
  | _ => true

/-- Each read along the run finds the two colours of one frame. -/
def AlwaysReadsPublished (actions : List Action) : Prop :=
  Along step?
    (fun state action => state.readsPublished action = true)
    boot actions

/-- A colour that has been returned is that of one computed pair. -/
def Consistent (state : Observed) : Prop :=
  ∀ thread,
    state.vision.scan = some thread →
    thread.pc = .pauseImage →
    ∃ pair ∈ state.computed, thread.colorScanned = classify pair

/-- What the reads so far say about the pair of the call. -/
def Reads (pair : Detection) (thread : Scan.Local) : Prop :=
  match thread.pc with
  | .colorScan .firstBlue => pair.red = true
  | .colorScan .secondRed => (pair.red && pair.blue) = false
  | .colorScan .secondBlue => pair.red = false
  | .colorScan (.returned color) => color = classify pair
  | .pauseImage => thread.colorScanned = classify pair
  | _ => True

/-- The record is complete, and the call agrees with the pair of its start. -/
structure Recorded (state : Observed) : Prop where
  window : votes state.vision.camera.window ∈ state.computed
  published : state.published ∈ state.computed
  atCall : state.atCall ∈ state.computed
  reads :
    ∀ {thread},
      state.vision.scan = some thread → Reads state.atCall thread

theorem recorded_boot : Recorded boot where
  window := List.mem_singleton.mpr rfl
  published := List.mem_singleton.mpr rfl
  atCall := List.mem_singleton.mpr rfl
  reads found := by cases found

/-- Only `line_detection_avg` moves the window. -/
theorem processStep?_window
    {outside : DetectionLine.Memory}
    {camera next : ProcessImage.State}
    (other : camera.process ≠ .record)
    (taken : processStep? outside camera = some next) :
    next.window = camera.window := by
  simp only [processStep?] at taken
  split at taken
  case h_7 here => exact (other here).elim
  case h_1 => split at taken <;> cases taken <;> rfl
  case h_3 =>
    split at taken
    · cases taken
      rfl
    · cases taken
  all_goals
    cases taken
    rfl

/-- A thread outside `color_scan` has read nothing that counts. -/
theorem reads_outside
    {thread : Scan.Local}
    (elsewhere : ∀ point, thread.pc ≠ .colorScan point)
    (input : Scan.Input)
    (mustStop : Bool)
    (pair : Detection) :
    Reads pair (Scan.next input mustStop thread) := by
  obtain ⟨pc, distApproach, colorScanned⟩ := thread
  cases pc with
  | colorScan point => exact (elsewhere point rfl).elim
  | testMustStop => cases mustStop <;> trivial
  | testMax | spin =>
      cases inRange : Scan.belowMax input.distMm <;>
        simp [Scan.next, inRange, Reads]
  | testMin =>
      cases inRange : Scan.aboveMin input.distMm <;>
        simp [Scan.next, inRange, Reads]
  | testColor =>
      cases found : Scan.colorFound input.colorMode colorScanned <;>
        simp [Scan.next, found, Reads]
  | drive leg point =>
      simp only [Scan.next]
      split
      · trivial
      · cases leg <;> trivial
  | _ => trivial

/-- The pair of the call is the one that its first read sees. -/
theorem reads_firstRed
    {thread : Scan.Local}
    {input : Scan.Input}
    {pair : Detection}
    (here : thread.pc = .colorScan .firstRed)
    (seen : input.lineRed = pair.red)
    (mustStop : Bool) :
    Reads pair (Scan.next input mustStop thread) := by
  simp only [Scan.next, here, ColorScan.step, seen]
  cases red : pair.red <;> simp [Reads, red]

/-- A later read of the same pair fits the reads before it. -/
theorem reads_later
    {thread : Scan.Local}
    {input : Scan.Input}
    {pair : Detection}
    {point : ColorScan.Pc}
    (here : thread.pc = .colorScan point)
    (notFirst : point ≠ .firstRed)
    (reads : Reads pair thread)
    (red : point = .secondRed → input.lineRed = pair.red)
    (blue :
      point = .firstBlue ∨ point = .secondBlue →
        input.lineBlue = pair.blue)
    (mustStop : Bool) :
    Reads pair (Scan.next input mustStop thread) := by
  obtain ⟨pairRed, pairBlue⟩ := pair
  simp only [Reads, here] at reads
  cases point with
  | firstRed => exact (notFirst rfl).elim
  | firstBlue =>
      simp only [Scan.next, here, ColorScan.step, blue (.inl rfl)]
      cases pairBlue <;> simp [Reads, classify, reads]
  | secondRed =>
      simp only [Scan.next, here, ColorScan.step, red rfl]
      cases pairRed with
      | false => simp [Reads]
      | true =>
          have noBlue : pairBlue = false := reads
          simp [Reads, classify, noBlue]
  | secondBlue =>
      simp only [Scan.next, here, ColorScan.step, blue (.inr rfl)]
      cases pairBlue <;> simp [Reads, classify, reads]
  | returned color =>
      simp only [Scan.next, here, ColorScan.step]
      exact reads

/-- A step of the camera that keeps the window keeps the records. -/
theorem Recorded.camera
    {state : Observed}
    {camera : ProcessImage.State}
    (recorded : Recorded state)
    (same : camera.window = state.vision.camera.window) :
    Recorded { state with vision := { state.vision with camera := camera } }
      where
  window := same ▸ recorded.window
  published := recorded.published
  atCall := recorded.atCall
  reads := recorded.reads

/-- A step of `ProcessImage` leaves its two colours on record. -/
theorem Recorded.process
    {outside : DetectionLine.Memory}
    {state : Observed}
    {camera : ProcessImage.State}
    (recorded : Recorded state)
    (taken : processStep? outside state.vision.camera = some camera) :
    Recorded {
      vision := { state.vision with camera := camera }
      computed :=
        state.computedAfter { state.vision with camera := camera }
          (.process outside)
      published := state.publishedAfter (.process outside)
      atCall := state.atCall
    } := by
  by_cases here : state.vision.camera.process = .record
  · have notLast : state.vision.camera.process ≠ .storeVoteBlue := by
      rw [here]
      decide
    simp only [computedAfter, publishedAfter, here, ↓reduceIte, reduceCtorEq]
    exact ⟨List.mem_cons_self,
      List.mem_cons_of_mem _ recorded.published,
      List.mem_cons_of_mem _ recorded.atCall, recorded.reads⟩
  · have same := processStep?_window here taken
    simp only [computedAfter, publishedAfter, here, ↓reduceIte]
    refine ⟨same ▸ recorded.window, ?_, recorded.atCall, recorded.reads⟩
    split
    · exact recorded.window
    · exact recorded.published

/-- A step of `Scan` reads what is on record. -/
theorem Recorded.scan
    {state : Observed}
    {thread : Scan.Local}
    {flags : PauseFlags}
    {distMm : UInt16}
    {colorMode : Couleur}
    {mustStop : Bool}
    (recorded : Recorded state)
    (current : state.vision.scan = some thread)
    (settled :
      state.readsPublished (.scan distMm colorMode mustStop) = true) :
    Recorded {
      vision := {
        camera := { state.vision.camera with flags := flags }
        scan :=
          some (Scan.next (inputOf state.vision.camera distMm colorMode)
            mustStop thread)
      }
      computed := state.computed
      published := state.published
      atCall := state.atCallAfter (.scan distMm colorMode mustStop)
    } := by
  refine ⟨recorded.window, recorded.published, ?_, fun found => ?_⟩
  · simp only [atCallAfter]
    split
    · exact recorded.published
    · exact recorded.atCall
  · cases found
    by_cases inside : ∃ point, thread.pc = .colorScan point
    · obtain ⟨point, inside⟩ := inside
      have here :
          state.vision.readPoint? (.scan distMm colorMode mustStop) =
            some point := by
        simp [State.readPoint?, current, inside]
      have reads := recorded.reads current
      simp only [atCallAfter, here]
      simp only [readsPublished, here] at settled
      cases point with
      | firstRed =>
          exact reads_firstRed inside (of_decide_eq_true settled) mustStop
      | secondRed =>
          obtain ⟨seen, same⟩ := of_decide_eq_true settled
          exact reads_later inside (by decide) reads
            (fun _ => seen.trans (congrArg Detection.red same))
            (fun blue => by rcases blue with h | h <;> cases h)
            mustStop
      | firstBlue | secondBlue =>
          obtain ⟨seen, same⟩ := of_decide_eq_true settled
          exact reads_later inside (by decide) reads
            (fun red => by cases red)
            (fun _ => seen.trans (congrArg Detection.blue same))
            mustStop
      | returned color =>
          exact reads_later inside (by simp) reads
            (fun red => by cases red)
            (fun blue => by rcases blue with h | h <;> cases h)
            mustStop
    · exact reads_outside (fun point same => inside ⟨point, same⟩) _
        mustStop _

/-- Step lemma: while `color_scan` reads published votes, all is recorded. -/
theorem recorded_step
    {state next : Observed}
    {action : Action}
    (recorded : Recorded state)
    (settled : state.readsPublished action = true)
    (taken : step? state action = some next) :
    Recorded next := by
  obtain ⟨vision, stepped, rfl⟩ := Option.map_eq_some_iff.mp taken
  rcases step?_cases stepped with
    ⟨camera, rfl, moved, rfl⟩ |
    ⟨frame, camera, rfl, ended, rfl⟩ |
    ⟨outside, camera, rfl, processed, rfl⟩ |
    ⟨distMm, colorMode, mustStop, thread, rfl, current, rfl⟩ |
    ⟨rfl, rfl⟩ |
    ⟨rfl, rfl⟩
  · exact recorded.camera (captureStep?_processing moved).window
  · exact recorded.camera (frameEnd?_processing ended).window
  · exact recorded.process processed
  · exact recorded.scan current settled
  · exact ⟨recorded.window, recorded.published, recorded.atCall,
      fun found => by cases found; trivial⟩
  · exact recorded.camera rfl

/--
In every run in which each read of `color_scan` sees the vote published last,
and no other pair is published within a call, every colour that is returned
is the classification of one pair of votes.
-/
theorem consistent_of_readsPublished
    {actions : List Action}
    {final : Observed}
    (settled : AlwaysReadsPublished actions)
    (ran : run? step? boot actions = some final) :
    Consistent final := by
  have recorded :=
    run?_invariant_along recorded_step recorded_boot settled ran
  intro thread found returned
  have reads := recorded.reads found
  simp only [Reads, returned] at reads
  exact ⟨final.atCall, recorded.atCall, reads⟩

/-- `Scan` comes to its first object while a frame is captured. -/
def firstObject : List Action :=
  [.mainPause, .scanCreate] ++ List.replicate 9 scanStep ++
    [.capture, .capture, .capture, .frameEnd darkLine, .capture]

/-- The line is processed; then the scanner wakes up and reads the flags. -/
def readAfterVote : List Action :=
  firstObject ++ List.replicate 8 (.process fun _ => 0) ++
    List.replicate 4 scanStep

/-- One line in ten is outvoted, and the scanner sees no colour. -/
theorem consistent_readAfterVote :
    Consistent
      ((run? step? boot readAfterVote).getD boot) := by
  have settled : AlwaysReadsPublished readAfterVote := by
    unfold AlwaysReadsPublished
    decide +kernel
  exact consistent_of_readsPublished settled
    (run?_eq_some_getD (by decide +kernel))

/-- The scanner wakes up when only the raw results have been stored. -/
def readBeforeVote : List Action :=
  firstObject ++ List.replicate 5 (.process fun _ => 0) ++
    List.replicate 3 scanStep

/-- A call that meets the raw results of a frame returns black. -/
theorem black_before_any_vote :
    ¬ ∀ actions final,
      run? step? boot actions = some final →
      Consistent final := by
  intro consistent
  have ran :
      run? step? boot readBeforeVote =
        some ((run? step? boot readBeforeVote).getD boot) :=
    run?_eq_some_getD (by decide +kernel)
  have returned :
      ((run? step? boot readBeforeVote).getD
        boot).vision.scan = some ⟨.pauseImage, 0, .noir⟩ := by
    decide +kernel
  have computed :
      ((run? step? boot readBeforeVote).getD
        boot).computed = [⟨false, false⟩] := by
    decide +kernel
  obtain ⟨pair, member, same⟩ :=
    consistent _ _ ran ⟨.pauseImage, 0, .noir⟩ returned rfl
  rw [computed, List.mem_singleton] at member
  subst member
  cases same

end Observed

end EPuckTavern.Vision
