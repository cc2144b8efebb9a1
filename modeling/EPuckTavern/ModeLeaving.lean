import EPuckTavern.Scenario

namespace EPuckTavern.Scenario

/-!
# Leaving a mode while its scan is running

Both modes wait for `get_good_color()` in a loop that does not look at the
selector, although the outer loops do.  Once main is in such a loop, the only
way back to the main loop leads through the start of the next worker.
-/

/-- The states of main along an infinite stream of readings. -/
def after (readings : Nat → Reading) (state : State) : Nat → State
  | 0 => state
  | count + 1 => step (readings count) (after readings state count)

/-- The two modes that wait for a colour. -/
inductive Mode where
  | tavern
  | hunt
  deriving Repr, DecidableEq

namespace Mode

/-- Where the selector stands for a mode. -/
def position : Mode → Fin 16
  | .tavern => tavernModeSelection
  | .hunt => huntModeSelection

/-- The loop in which a mode waits for its colour. -/
def awaitColor : Mode → Pc
  | .tavern => .tavernAwaitColor
  | .hunt => .huntAwaitColor

/-- What main calls when the colour has come. -/
def startCall : Mode → Call
  | .tavern => .beerStart
  | .hunt => .pidDistanceStart

/-- Between the wait loop and that call. -/
def Ahead : Mode → Pc → Prop
  | .tavern, pc => pc = .tavernAwaitColor
  | .hunt, pc => pc = .huntAwaitColor ∨ pc = .huntSleepDetection

end Mode

/-- Main is in its own loop, in no phase. -/
def Pc.inMain : Pc → Bool
  | .mainTestTavern | .mainTestHunt | .mainSleepSecond | .mainSleep => true
  | _ => false

section Waiting

variable
  (mode : Mode)
  (readings : Nat → Reading)
  (state : State)

/-- The wait loop entered at `state` goes through its body for this reading. -/
def WaitIteration (count : Nat) : Prop :=
  ∀ earlier ≤ count,
    (after readings state earlier).pc = mode.awaitColor ∧
      (readings earlier).goodColor = false

/-- On some iteration of the wait loop the selector is elsewhere. -/
def LeavesDuring : Prop :=
  ∃ count,
    WaitIteration mode readings state count ∧
      (readings count).selector ≠ mode.position

/-- The phase returns to the main loop without having gone on. -/
def ReturnsInstead : Prop :=
  ∃ count,
    (after readings state count).pc.inMain = true ∧
      ∀ earlier < count,
        mode.startCall ∉
          calls (readings earlier) (after readings state earlier)

/-- If the mode is left during the wait, the phase returns instead. -/
def HonoursLeaving : Prop :=
  LeavesDuring mode readings state → ReturnsInstead mode readings state

variable {mode readings state}

/-- Step lemma: without the call, main does not get past it. -/
theorem ahead_step
    {reading : Reading}
    (ahead : mode.Ahead state.pc)
    (noCall : mode.startCall ∉ calls reading state) :
    mode.Ahead (step reading state).pc := by
  obtain ⟨pc, _, _, _, _, _⟩ := state
  cases mode with
  | tavern =>
      cases ahead
      cases found : reading.goodColor with
      | true => simp [calls, found, Mode.startCall] at noCall
      | false => simp [step, control, found, Mode.Ahead]
  | hunt =>
      rcases ahead with rfl | rfl
      · cases found : reading.goodColor <;>
          simp [step, control, found, Mode.Ahead]
      · simp [calls, Mode.startCall] at noCall

/-- Run lemma: as long as there was no call, main is in front of it. -/
theorem ahead_after
    (waiting : state.pc = mode.awaitColor)
    (count : Nat)
    (noCall :
      ∀ earlier < count,
        mode.startCall ∉
          calls (readings earlier) (after readings state earlier)) :
    mode.Ahead (after readings state count).pc := by
  induction count with
  | zero =>
      cases mode with
      | tavern => exact waiting
      | hunt => exact .inl waiting
  | succ previous inductionHypothesis =>
      have ahead := inductionHypothesis
        (fun earlier before => noCall earlier (Nat.lt_succ_of_lt before))
      exact ahead_step ahead (noCall previous (Nat.lt_succ_self previous))

/-- From its wait loop a phase never returns without the call. -/
theorem not_returnsInstead
    (waiting : state.pc = mode.awaitColor) :
    ¬ ReturnsInstead mode readings state := by
  rintro ⟨count, inMain, noCall⟩
  have ahead := ahead_after waiting count noCall
  generalize (after readings state count).pc = pc at inMain ahead
  cases mode with
  | tavern =>
      cases ahead
      cases inMain
  | hunt =>
      rcases ahead with rfl | rfl <;> cases inMain

/--
A phase that waits for its scan honours a change of mode exactly when there is
none: the selector stays in place on every iteration of the wait loop.
-/
theorem honoursLeaving_iff_stays
    (waiting : state.pc = mode.awaitColor) :
    HonoursLeaving mode readings state ↔
      ∀ count,
        WaitIteration mode readings state count →
        (readings count).selector = mode.position := by
  constructor
  · intro honours count iteration
    by_contra elsewhere
    exact not_returnsInstead waiting
      (honours ⟨count, iteration, elsewhere⟩)
  · rintro stays ⟨count, iteration, elsewhere⟩
    exact (elsewhere (stays count iteration)).elim

end Waiting

/-- Readings with the selector at one position, and no work done. -/
def resting (selector : Fin 16) : Nat → Reading :=
  fun _ => ⟨selector, 1, false, false, false⟩

/-- Main waits for red in the hunt. -/
def hunting : State :=
  after (resting huntModeSelection) boot 3

/-- The selector is turned to a third position; then the enemy is seen. -/
def turnedAway (count : Nat) : Reading :=
  ⟨Fin.last 15, 1, count != 0, false, false⟩

/-- The wait loop has one more iteration there. -/
theorem turnedAway_waitIteration :
    WaitIteration .hunt turnedAway hunting 0 := by
  intro earlier first
  rw [Nat.le_zero.mp first]
  exact ⟨rfl, rfl⟩

/-- The enemy is seen; then the selector is turned. -/
def turnedLater (count : Nat) : Reading where
  selector := if count ≤ 1 then huntModeSelection else Fin.last 15
  now := 1
  goodColor := count == 1
  beerServed := false
  jobIsDone := false

/-- It makes a difference when the selector is turned. -/
theorem hunting_honours_turnedLater :
    HonoursLeaving .hunt turnedLater hunting ∧
      ¬ HonoursLeaving .hunt turnedAway hunting := by
  refine ⟨(honoursLeaving_iff_stays rfl).mpr fun count iteration => ?_,
    fun honours => ?_⟩
  · cases count with
    | zero => rfl
    | succ more =>
        have unseen := (iteration 1 (Nat.le_add_left 1 more)).2
        cases unseen
  · have stays :=
      (honoursLeaving_iff_stays rfl).mp honours 0 turnedAway_waitIteration
    exact absurd stays (by decide)

/-- Main hunts on although the selector has left the hunt. -/
theorem hunt_goes_on_after_leaving :
    ¬ ∀ mode earlier count readings,
      (after earlier boot count).pc = mode.awaitColor →
      HonoursLeaving mode readings (after earlier boot count) := by
  intro honours
  have leaves : LeavesDuring .hunt turnedAway hunting :=
    ⟨0, turnedAway_waitIteration, by decide⟩
  exact not_returnsInstead rfl
    (honours .hunt (resting huntModeSelection) 3 _ rfl leaves)

end EPuckTavern.Scenario
