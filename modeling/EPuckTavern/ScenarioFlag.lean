import EPuckTavern.ModeLeaving

namespace EPuckTavern.Scenario

/-!
# The flag `tavern_threads_resumed`

Main and its phases pass the flag along by value, while the pause flags and
the requested song are kept by other modules.  Between two calls the three
agree, at every control point of main: a phase that is left early has changed
them together.
-/

/-- What the flag says about the two stroll threads and the song. -/
structure Mirrors (threadsResumed : Bool) (settings : Settings) : Prop where
  resumed :
    threadsResumed = true ↔
      settings.walk.isPaused = false ∧
        settings.avoidObstacles.isPaused = false
  paused :
    threadsResumed = false ↔
      settings.walk.isPaused = true ∧
        settings.avoidObstacles.isPaused = true
  song : threadsResumed = true → settings.musicToPlay = .tavernSong

/--
At the head of the main loop the static of `main` mirrors the threads, and at
the loop condition of `tavern_phase` its parameter does.
-/
def FlagMirrors (state : State) : Prop :=
  (state.pc = .mainTestTavern →
      Mirrors state.tavernThreadsResumed state.settings) ∧
    (state.pc = .tavernTest →
      Mirrors state.phaseThreadsResumed state.settings)

/-- Both threads exist and are paused unless the flag says otherwise. -/
structure Linked (threadsResumed : Bool) (settings : Settings) : Prop where
  walk : settings.walk = ⟨true, !threadsResumed⟩
  avoidObstacles : settings.avoidObstacles = ⟨true, !threadsResumed⟩
  song : threadsResumed = true → settings.musicToPlay = .tavernSong

/-- Linked to the flags of the threads, `threads_resumed` mirrors them. -/
theorem Linked.mirrors
    {threadsResumed : Bool}
    {settings : Settings}
    (linked : Linked threadsResumed settings) :
    Mirrors threadsResumed settings := by
  obtain ⟨walk, avoidObstacles, song⟩ := linked
  refine ⟨?_, ?_, song⟩ <;> rw [walk, avoidObstacles] <;>
    cases threadsResumed <;> simp

/-- The flag in force at a control point, and what else is known there. -/
def LinkedHere (state : State) : Prop :=
  match state.pc with
  | .mainTestTavern | .mainTestHunt | .mainSleepSecond | .mainSleep =>
      Linked state.tavernThreadsResumed state.settings
  | .tavernEnter | .huntEnter =>
      Linked state.phaseThreadsResumed state.settings
  | .tavernTest | .tavernStamp | .tavernElapsed =>
      state.phaseThreadsResumed = true ∧ Linked true state.settings
  | .tavernAwaitColor | .tavernAwaitBeer =>
      -- The song goes on while the threads are paused.
      state.phaseThreadsResumed = false ∧ Linked false state.settings ∧
        state.settings.musicToPlay = .tavernSong
  | .huntAwaitColor | .huntSleepDetection | .huntAwaitDone
  | .huntSleepVictory | .huntTestSelector | .huntTestDone =>
      state.phaseThreadsResumed = false ∧ Linked false state.settings

theorem linkedHere_boot : LinkedHere boot :=
  ⟨rfl, rfl, nofun⟩

/-- Both pause calls, and any others, leave both threads paused. -/
theorem Linked.pause
    {threadsResumed : Bool}
    {settings next : Settings}
    (linked : Linked threadsResumed settings)
    (walk : next.walk = Walk.walkPauseThd settings.walk)
    (avoidObstacles :
      next.avoidObstacles =
        AvoidObstacles.avoidObstaclesPauseThd settings.avoidObstacles) :
    Linked false next := by
  refine ⟨?_, ?_, nofun⟩
  · rw [walk, linked.walk]
    cases threadsResumed <;> rfl
  · rw [avoidObstacles, linked.avoidObstacles]
    cases threadsResumed <;> rfl

/-- The two calls of resume and the new song link a raised flag. -/
theorem Linked.resume
    {settings next : Settings}
    (linked : Linked false settings)
    (walk : next.walk = Walk.walkResumeThd settings.walk)
    (avoidObstacles :
      next.avoidObstacles =
        AvoidObstacles.avoidObstaclesResumeThd settings.avoidObstacles)
    (song : next.musicToPlay = .tavernSong) :
    Linked true next := by
  refine ⟨?_, ?_, fun _ => song⟩
  · rw [walk, linked.walk]
    rfl
  · rw [avoidObstacles, linked.avoidObstacles]
    rfl

/-- While the threads are paused, another song makes no difference. -/
theorem Linked.setSong
    {settings next : Settings}
    (linked : Linked false settings)
    (walk : next.walk = settings.walk)
    (avoidObstacles : next.avoidObstacles = settings.avoidObstacles) :
    Linked false next :=
  ⟨walk.trans linked.walk, avoidObstacles.trans linked.avoidObstacles,
    nofun⟩

/-- Step lemma: the flag in force stays linked to threads and song. -/
theorem linkedHere_step
    {state : State}
    (linked : LinkedHere state)
    (reading : Reading) :
    LinkedHere (step reading state) := by
  obtain ⟨pc, _, phaseThreadsResumed, beerTime, thirsty, settings⟩ := state
  cases pc with
  | mainTestTavern =>
      by_cases here : reading.selector = tavernModeSelection <;>
        simp only [LinkedHere, step, control, calls, here, ↓reduceIte] <;>
        exact linked
  | mainTestHunt =>
      by_cases here : reading.selector = huntModeSelection
      · simp only [LinkedHere, step, control, calls, here, ↓reduceIte]
        exact linked
      · simp only [LinkedHere, step, control, calls, here, ↓reduceIte]
        exact linked.pause rfl rfl
  | mainSleepSecond => exact linked
  | mainSleep => exact linked
  | tavernEnter =>
      cases phaseThreadsResumed with
      | true => exact ⟨rfl, linked⟩
      | false => exact ⟨rfl, Linked.resume linked rfl rfl rfl⟩
  | tavernTest =>
      by_cases stays : reading.selector = tavernModeSelection
      · simp only [LinkedHere, step, control, calls, stays, ↓reduceIte]
        exact linked
      · simp only [LinkedHere, step, control, calls, stays, ↓reduceIte,
          State.return]
        obtain ⟨rfl, linkedTrue⟩ := linked
        exact linkedTrue
  | tavernStamp =>
      by_cases stamps : (decide (beerTime = 0) || !thirsty) = true <;>
        simp only [LinkedHere, step, control, calls, stamps, ↓reduceIte] <;>
        exact linked
  | tavernElapsed =>
      obtain ⟨rfl, linkedTrue⟩ := linked
      by_cases late : timeout reading.now beerTime = true
      · simp only [LinkedHere, step, control, calls, late, ↓reduceIte]
        exact ⟨trivial, linkedTrue.pause rfl rfl, linkedTrue.song rfl⟩
      · simp only [LinkedHere, step, control, calls, late]
        exact ⟨rfl, linkedTrue⟩
  | tavernAwaitColor =>
      obtain ⟨rfl, linkedFalse, song⟩ := linked
      cases found : reading.goodColor <;>
        simp only [LinkedHere, step, control, calls, found,
          Bool.false_eq_true, ↓reduceIte] <;>
        exact ⟨trivial, linkedFalse, song⟩
  | tavernAwaitBeer =>
      obtain ⟨rfl, linkedFalse, song⟩ := linked
      cases served : reading.beerServed with
      | false =>
          simp only [LinkedHere, step, control, calls, served,
            Bool.false_eq_true, ↓reduceIte]
          exact ⟨trivial, linkedFalse, song⟩
      | true =>
          simp only [LinkedHere, step, control, calls, served, ↓reduceIte]
          exact ⟨trivial, linkedFalse.resume rfl rfl song⟩
  | huntEnter => exact ⟨rfl, Linked.pause linked rfl rfl⟩
  | huntAwaitColor =>
      obtain ⟨rfl, linkedFalse⟩ := linked
      cases found : reading.goodColor <;>
        simp only [LinkedHere, step, control, calls, found,
          Bool.false_eq_true, ↓reduceIte] <;>
        exact ⟨trivial, linkedFalse.setSong rfl rfl⟩
  | huntSleepDetection => exact ⟨linked.1, linked.2.setSong rfl rfl⟩
  | huntAwaitDone =>
      obtain ⟨rfl, linkedFalse⟩ := linked
      cases done : reading.jobIsDone <;>
        simp only [LinkedHere, step, control, calls, done,
          Bool.false_eq_true, ↓reduceIte] <;>
        exact ⟨trivial, linkedFalse.setSong rfl rfl⟩
  | huntSleepVictory => exact ⟨linked.1, linked.2.setSong rfl rfl⟩
  | huntTestSelector =>
      obtain ⟨rfl, linkedFalse⟩ := linked
      by_cases stays : reading.selector = huntModeSelection <;>
        simp only [LinkedHere, step, control, calls, stays, ↓reduceIte,
          State.return]
      · exact ⟨trivial, linkedFalse⟩
      · exact linkedFalse
  | huntTestDone =>
      obtain ⟨rfl, linkedFalse⟩ := linked
      cases done : reading.jobIsDone <;>
        simp only [LinkedHere, step, control, calls, done,
          Bool.false_eq_true, ↓reduceIte, State.return]
      · exact linkedFalse
      · exact ⟨trivial, linkedFalse⟩

/-- Run lemma: whatever main reads, the flag is linked wherever it is. -/
theorem linkedHere_after
    (readings : Nat → Reading)
    (count : Nat) :
    LinkedHere (after readings boot count) := by
  induction count with
  | zero => exact linkedHere_boot
  | succ previous inductionHypothesis =>
      exact linkedHere_step inductionHypothesis (readings previous)

/--
For every stream of selector positions, clock readings and completions, and at
every point of the run: `tavern_threads_resumed` is true exactly when both
threads are resumed, false exactly when both are paused, and when it is true
the tavern song is requested.
-/
theorem flagMirrors_after
    (readings : Nat → Reading)
    (count : Nat) :
    FlagMirrors (after readings boot count) := by
  have linked := linkedHere_after readings count
  constructor
  · intro atHead
    simp only [LinkedHere, atHead] at linked
    exact linked.mirrors
  · intro atLoop
    simp only [LinkedHere, atLoop] at linked
    rw [linked.1]
    exact linked.2.mirrors

end EPuckTavern.Scenario
