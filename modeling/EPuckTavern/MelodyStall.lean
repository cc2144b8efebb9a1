import EPuckTavern.MelodySong
import EPuckTavern.Transition.Waiting

namespace EPuckTavern.Melody

open Transition

/-!
# A song that ends before `Melody_player` waits for its end

`waitMelodyHasFinished` tests the reference before it takes the lock, and
`PlayMelodyThd` broadcasts without it.  A song that ends between the test and
the wait is therefore missed, and so is one whose thread has not come back to
`chThdSuspendS` yet: `Melody_player` then waits for the end of a song that
only itself could start.
-/

/-- `PlayMelodyThd` is going to broadcast before it suspends itself. -/
def PlayerPc.inSong : PlayerPc → Bool
  | .suspend | .suspended => false
  | _ => true

/-- `Melody_player` waits for a broadcast that is not to come. -/
def Stalled (state : State) : Prop :=
  (∃ request, state.melody = .waiting request) ∧
    state.player.inSong = false

/-- `Melody_player` begins to wait during a song only. -/
def WaitsInTime (state : State) : Action → Prop
  | .melody =>
      ∀ request,
        state.melody = .condWait request →
        state.player.inSong = true
  | _ => True

/-- The broadcast that `Melody_player` waits for is still to come. -/
def BroadcastAhead (state : State) : Prop :=
  ∀ request,
    state.melody = .waiting request →
    state.player.inSong = true

/-- Only the wait on the condition variable makes `Melody_player` wait. -/
theorem condWait_of_waits
    {state next : State}
    {request : Request}
    (taken : melodyStep? state = some next)
    (waiting : next.melody = .waiting request) :
    state.melody = .condWait request ∧ next.player = state.player := by
  obtain ⟨musicToPlay, temp, play, player, melody⟩ := state
  cases melody with
  | condWait other =>
      cases taken
      cases waiting
      exact ⟨rfl, rfl⟩
  | switch | testFinished other | testSimple other | resume other =>
      simp only [melodyStep?] at taken
      repeat' split at taken
      all_goals
        cases taken
        cases waiting
  | waiting other => cases taken
  | stopNone | setTempNone | forceStop other | setPlay other
  | setTemp other | sleep =>
      cases taken
      cases waiting

/-- A song that goes on keeps the other thread where it is. -/
theorem playerStep?_inSong
    {state next : State}
    (inSong : state.player.inSong = true)
    (taken : playerStep? state = some next) :
    next.player.inSong = true ∧ next.melody = state.melody ∨
      next.player = .suspend ∧ next.melody = woken state.melody := by
  obtain ⟨musicToPlay, temp, play, player, melody⟩ := state
  cases player with
  | suspend | suspended => cases inSong
  | testNote song thisNote | testPlay song thisNote =>
      simp only [playerStep?] at taken
      split at taken
      all_goals
        cases taken
        exact .inl ⟨rfl, rfl⟩
  | playNote song thisNote | clearPlay =>
      cases taken
      exact .inl ⟨rfl, rfl⟩
  | broadcast =>
      cases taken
      exact .inr ⟨rfl, rfl⟩

/-- A thread that is woken does not wait. -/
theorem not_waits_woken
    (melody : MelodyPc)
    (request : Request) :
    woken melody ≠ .waiting request := by
  cases melody <;> simp [woken]

/-- Outside a song `PlayMelodyThd` only suspends itself. -/
theorem playerStep?_outside
    {state next : State}
    (outside : state.player.inSong = false)
    (taken : playerStep? state = some next) :
    next.player = .suspended ∧ next.melody = state.melody := by
  obtain ⟨musicToPlay, temp, play, player, melody⟩ := state
  cases player with
  | suspend =>
      cases taken
      exact ⟨rfl, rfl⟩
  | suspended => cases taken
  | testNote | testPlay | playNote | clearPlay | broadcast => cases outside

theorem broadcastAhead_start : BroadcastAhead start :=
  fun _ impossible => by cases impossible

/-- Step lemma: a wait begun in time is ended by the song it began in. -/
theorem broadcastAhead_step
    {state next : State}
    {action : Action}
    (ahead : BroadcastAhead state)
    (inTime : WaitsInTime state action)
    (taken : step? state action = some next) :
    BroadcastAhead next := by
  intro request waiting
  cases action with
  | setMusicToPlay song =>
      cases taken
      exact ahead request waiting
  | player =>
      simp only [step?] at taken
      cases here : state.player.inSong with
      | true =>
          rcases playerStep?_inSong here taken with
            ⟨inSong, -⟩ | ⟨-, broadcast⟩
          · exact inSong
          · exact (not_waits_woken _ _ (broadcast ▸ waiting)).elim
      | false =>
          obtain ⟨-, melody⟩ := playerStep?_outside here taken
          exact absurd (ahead request (melody ▸ waiting)) (by simp [here])
  | melody =>
      obtain ⟨before, player⟩ := condWait_of_waits taken waiting
      rw [player]
      exact inTime request before

/-- A wait begun late is stuck from its first statement on. -/
theorem stalled_of_late
    {state next : State}
    {action : Action}
    (late : ¬ WaitsInTime state action)
    (taken : step? state action = some next) :
    Stalled next := by
  cases action with
  | setMusicToPlay song => exact (late trivial).elim
  | player => exact (late trivial).elim
  | melody =>
      simp only [WaitsInTime, not_forall, Bool.not_eq_true] at late
      obtain ⟨request, before, outside⟩ := late
      simp only [step?, melodyStep?, before, Option.some.injEq] at taken
      subst taken
      exact ⟨⟨request, rfl⟩, outside⟩

/-- Nothing wakes the thread: a stall lasts through every step. -/
theorem stalled_step_melody
    {state next : State}
    {action : Action}
    (stalled : Stalled state)
    (taken : step? state action = some next) :
    Stalled next ∧ next.melody = state.melody := by
  obtain ⟨⟨request, waiting⟩, outside⟩ := stalled
  cases action with
  | setMusicToPlay song =>
      cases taken
      exact ⟨⟨⟨request, waiting⟩, outside⟩, rfl⟩
  | player =>
      obtain ⟨player, melody⟩ := playerStep?_outside outside taken
      exact ⟨⟨⟨request, melody.trans waiting⟩, by rw [player]; rfl⟩, melody⟩
  | melody => simp [step?, melodyStep?, waiting] at taken

/-- While every wait begins in time, and then only, no wait is stuck. -/
theorem stalled_exactly
    {state final : State}
    {actions : List Action}
    (ahead : BroadcastAhead state)
    (ran : run? step? state actions = some final) :
    ¬ Stalled final ↔ Along step? WaitsInTime state actions :=
  run?_exact_along broadcastAhead_step
    (fun ahead stalled => by
      obtain ⟨⟨request, waiting⟩, outside⟩ := stalled
      exact absurd (ahead request waiting) (by simp [outside]))
    (fun _ late taken => stalled_of_late late taken)
    (fun stalled taken => (stalled_step_melody stalled taken).1)
    ahead ran

/--
The runs in which `Melody_player` does not end up waiting for ever are those
in which each of its waits begins before the broadcast that is to end it.
-/
theorem not_stalled_iff_waitsInTime
    {actions : List Action}
    {final : State}
    (ran : run? step? start actions = some final) :
    ¬ Stalled final ↔ Along step? WaitsInTime start actions :=
  stalled_exactly broadcastAhead_start ran

/-- `Melody_player` waits from within the first song to its end. -/
def changeOfSong : List Action :=
  [.setMusicToPlay .tavernSong, .player] ++ List.replicate 6 .melody ++
    [.setMusicToPlay .radarSong] ++ List.replicate 5 .melody

/-- The song has been changed, and the old one is still played. -/
def changing : State :=
  ⟨.radarSong, .tavernSong, false, .testNote .theTavernSong 0,
    .waiting ⟨.radarSong, .radar⟩⟩

theorem not_stalled_iff_waitsInTime_changing :
    ¬ Stalled changing ↔ Along step? WaitsInTime start changeOfSong :=
  not_stalled_iff_waitsInTime (by decide)

/--
After one wait that began late no song is played any more, whatever main asks
for and however the threads go on.
-/
theorem silent_after_late_wait
    {earlier later : List Action}
    {middle final : State}
    (ran : run? step? start earlier = some middle)
    (late : ¬ Along step? WaitsInTime start earlier)
    (goesOn : run? step? middle later = some final) :
    final.player.inSong = false ∧ final.melody = middle.melody := by
  have stalled : Stalled middle :=
    not_not.mp (late ∘ (stalled_exactly broadcastAhead_start ran).mp)
  have kept :=
    @run?_invariant _ _ step?
      (fun state => Stalled state ∧ state.melody = middle.melody)
      (fun before taken => by
        obtain ⟨stalled, melody⟩ := stalled_step_melody before.1 taken
        exact ⟨stalled, melody.trans before.2⟩)
      middle final later ⟨stalled, rfl⟩ goesOn
  exact ⟨kept.1.2, kept.2⟩

/--
The first song of all is asked for before `PlayMelodyThd` has come to
`chThdSuspendS`.
-/
def askedTooEarly : List Action :=
  .setMusicToPlay .tavernSong :: List.replicate 4 .melody

/-- `Melody_player` waits before `PlayMelodyThd` has suspended itself. -/
def tooEarly : State :=
  ⟨.tavernSong, .noSong, false, .suspend,
    .waiting ⟨.tavernSong, .theTavernSong⟩⟩

theorem silent_after_late_wait_tooEarly :
    PlayerPc.suspended.inSong = false ∧ tooEarly.melody = tooEarly.melody := by
  have ran : run? step? start askedTooEarly = some tooEarly := by decide
  have late : ¬ Along step? WaitsInTime start askedTooEarly := by
    rw [← stalled_exactly broadcastAhead_start ran, not_not]
    exact ⟨⟨_, rfl⟩, rfl⟩
  exact @silent_after_late_wait askedTooEarly [.player] tooEarly
    { tooEarly with player := .suspended } ran late rfl

/-- The statements before the broadcast once `play` is down. -/
def PlayerPc.toBroadcast : PlayerPc → Nat
  | .playNote _ _ => 4
  | .testNote _ _ => 3
  | .testPlay _ _ => 2
  | .clearPlay => 1
  | _ => 0

/-- `Melody_player` waits for the end of a song that has been given up. -/
structure WaitsForEnd (request : Request) (state : State) : Prop where
  waiting : state.melody = .waiting request
  inSong : state.player.inSong = true
  givenUp : state.play = false

/-- Each statement of a song brings its broadcast closer. -/
theorem waitsForEnd_playerStep
    {request : Request}
    {state next : State}
    (waits : WaitsForEnd request state)
    (taken : playerStep? state = some next) :
    next.melody = .setPlay request ∧ next.player = .suspend ∨
      WaitsForEnd request next ∧
        next.player.toBroadcast < state.player.toBroadcast := by
  obtain ⟨musicToPlay, temp, play, player, melody⟩ := state
  obtain ⟨waiting, inSong, givenUp⟩ := waits
  simp only at waiting givenUp
  subst waiting givenUp
  cases player with
  | suspend | suspended => cases inSong
  | testNote song thisNote =>
      simp only [playerStep?] at taken
      split at taken
      · cases taken
        exact .inr ⟨⟨rfl, rfl, rfl⟩, by simp [PlayerPc.toBroadcast]⟩
      · cases taken
        exact .inr ⟨⟨rfl, rfl, rfl⟩, by simp [PlayerPc.toBroadcast]⟩
  | testPlay song thisNote | playNote song thisNote | clearPlay =>
      cases taken
      exact .inr ⟨⟨rfl, rfl, rfl⟩, by simp [PlayerPc.toBroadcast]⟩
  | broadcast =>
      cases taken
      exact .inl ⟨rfl, rfl⟩

/--
A wait begun in time ends after the note in progress: five statements of
`PlayMelodyThd` at most, whatever comes between them, bring the broadcast, and
then `Melody_player` is about to start the song it waited with.
-/
theorem woken_within_five
    {state final : State}
    {request : Request}
    {actions : List Action}
    (reachable : Reachable step? start state)
    (waiting : state.melody = .waiting request)
    (inSong : state.player.inSong = true)
    (ran : run? step? state actions = some final)
    (enough : 5 ≤ actions.count .player) :
    ∃ leading trailing middle,
      actions = leading ++ trailing ∧
        run? step? state leading = some middle ∧
        middle.melody = .setPlay request ∧
        middle.player = .suspend := by
  have told := (inTune_of_reachable reachable).told
  simp only [Told, waiting] at told
  have bound : state.player.toBroadcast ≤ 4 := by
    cases state.player <;> simp [PlayerPc.toBroadcast]
  refine
    @run?_reaches _ _ step? (WaitsForEnd request)
      (fun state =>
        state.melody = .setPlay request ∧ state.player = .suspend)
      (fun state => state.player.toBroadcast) (· == .player)
      ?_ state final actions ⟨waiting, inSong, told.2⟩ ran
      (by rw [← List.count_eq_countP]; omega)
  intro state action next waits taken
  cases action with
  | setMusicToPlay song =>
      cases taken
      exact .inr ⟨⟨waits.waiting, waits.inSong, waits.givenUp⟩, by simp⟩
  | player =>
      rcases waitsForEnd_playerStep waits taken with woken | ⟨kept, nearer⟩
      · exact .inl woken
      · exact .inr ⟨kept, by simpa [Nat.succ_le_iff] using nearer⟩
  | melody => simp [step?, melodyStep?, waits.waiting] at taken

theorem woken_within_five_changing :
    ∃ leading trailing middle,
      List.replicate 5 Action.player = leading ++ trailing ∧
        run? step? changing leading = some middle ∧
        middle.melody = .setPlay ⟨.radarSong, .radar⟩ ∧
        middle.player = .suspend :=
  @woken_within_five changing
    { changing with
      player := .suspended
      melody := .setPlay ⟨.radarSong, .radar⟩ }
    ⟨.radarSong, .radar⟩ (List.replicate 5 .player)
    ⟨changeOfSong, by decide⟩ rfl rfl rfl (by decide)

end EPuckTavern.Melody
