import EPuckTavern.Melody

namespace EPuckTavern.Melody

open Transition
open Scenario (Music)

/-!
# Which song is played

`Melody_player` hands a song over only while `PlayMelodyThd` is out of its
loop, and lowers `play` before it asks for another one.  So a note is begun
for no other song than the one that `Melody_player` has asked for last, and a
song that has been given up is left after the note in progress.
-/

/-- The song that `PlayMelodyThd` is playing. -/
def PlayerPc.song? : PlayerPc → Option SongSelectionExt
  | .testNote song _ | .testPlay song _ | .playNote song _ => some song
  | _ => none

/-- The last value of `music_to_play` that `Melody_player` has gone by. -/
def acted (state : State) : Music :=
  match state.melody with
  | .setTemp request => request.music
  | _ => state.temp

/-- What is known at the control points of `Melody_player`. -/
def Told (state : State) : Prop :=
  match state.melody with
  | .switch | .stopNone | .sleep => True
  | .setTempNone => state.play = false
  | .forceStop request => songOf? request.music = some request.song
  | .testFinished request | .condWait request | .waiting request =>
      songOf? request.music = some request.song ∧ state.play = false
  | .testSimple request =>
      songOf? request.music = some request.song ∧
        request.music = state.temp
  | .setPlay request =>
      songOf? request.music = some request.song ∧
        (state.player = .suspend ∨ state.player = .suspended)
  | .resume request =>
      songOf? request.music = some request.song ∧
        (state.player = .suspend ∨ state.player = .suspended)
  | .setTemp request => songOf? request.music = some request.song

/-- While `play` is up, the song played is the one gone by last. -/
def PlaysActed (state : State) : Prop :=
  ∀ song,
    state.player.song? = some song →
    state.play = true →
    songOf? (acted state) = some song

/-- What is asked for, what is played and what both threads hold agree. -/
structure InTune (state : State) : Prop where
  told : Told state
  playsActed : PlaysActed state

theorem inTune_start : InTune start where
  told := trivial
  playsActed song playing := by cases playing

/-- Each statement of `Melody_player` keeps the two in tune. -/
theorem inTune_melodyStep
    {state next : State}
    (inTune : InTune state)
    (taken : melodyStep? state = some next) :
    InTune next := by
  obtain ⟨musicToPlay, temp, play, player, melody⟩ := state
  obtain ⟨told, playsActed⟩ := inTune
  cases melody with
  | switch =>
      simp only [melodyStep?] at taken
      cases selected : songOf? musicToPlay with
      | none =>
          simp only [selected, Option.some.injEq] at taken
          subst taken
          exact ⟨trivial, playsActed⟩
      | some song =>
          simp only [selected] at taken
          split at taken
          · cases taken
            exact ⟨selected, playsActed⟩
          · rename_i same
            cases taken
            exact ⟨⟨selected, (not_not.mp same).symm⟩, playsActed⟩
  | stopNone =>
      cases taken
      exact ⟨rfl, fun _ _ impossible => by cases impossible⟩
  | setTempNone =>
      cases taken
      exact ⟨trivial, fun _ _ impossible =>
        absurd (told.symm.trans impossible) (by decide)⟩
  | forceStop request =>
      cases taken
      exact ⟨⟨told, rfl⟩, fun _ _ impossible => by cases impossible⟩
  | testFinished request =>
      simp only [melodyStep?] at taken
      split at taken
      · rename_i idle
        cases taken
        exact ⟨⟨told.1, .inr idle⟩, playsActed⟩
      · cases taken
        exact ⟨told, playsActed⟩
  | condWait request =>
      cases taken
      exact ⟨told, playsActed⟩
  | waiting request => cases taken
  | testSimple request =>
      simp only [melodyStep?] at taken
      split at taken
      · rename_i idle
        cases taken
        exact ⟨⟨told.1, .inr idle⟩, playsActed⟩
      · cases taken
        refine ⟨told.1, fun song playing up => ?_⟩
        have before := playsActed song playing up
        simp only [acted] at before ⊢
        rw [told.2]
        exact before
  | setPlay request =>
      cases taken
      refine ⟨told, fun song playing _ => ?_⟩
      rcases told.2 with outside | outside <;>
        · simp only at outside
          rw [outside] at playing
          cases playing
  | resume request =>
      simp only [melodyStep?] at taken
      split at taken
      · cases taken
        refine ⟨told.1, fun song playing _ => ?_⟩
        cases playing
        exact told.1
      · rename_i notSuspended
        cases taken
        refine ⟨told.1, fun song playing _ => ?_⟩
        have outside := told.2.resolve_right notSuspended
        simp only at outside
        rw [outside] at playing
        cases playing
  | setTemp request =>
      cases taken
      exact ⟨trivial, playsActed⟩
  | sleep =>
      cases taken
      exact ⟨trivial, playsActed⟩

/-- Where nothing depends on the player, its statements keep what is known. -/
theorem told_of_player
    {state : State}
    {player : PlayerPc}
    (told : Told state)
    (outside :
      state.player = .suspend ∨ state.player = .suspended →
        player = .suspend ∨ player = .suspended) :
    Told { state with player := player } := by
  obtain ⟨musicToPlay, temp, play, before, melody⟩ := state
  cases melody with
  | setPlay request | resume request => exact ⟨told.1, outside told.2⟩
  | _ => exact told

/-- Each statement of `PlayMelodyThd` keeps the two in tune. -/
theorem inTune_playerStep
    {state next : State}
    (inTune : InTune state)
    (taken : playerStep? state = some next) :
    InTune next := by
  obtain ⟨told, playsActed⟩ := inTune
  have inside
      (noSuspend : state.player ≠ .suspend)
      (noSuspended : state.player ≠ .suspended)
      (player : PlayerPc) :
      state.player = .suspend ∨ state.player = .suspended →
        player = .suspend ∨ player = .suspended := by
    rintro (here | here)
    · exact (noSuspend here).elim
    · exact (noSuspended here).elim
  cases here : state.player with
  | suspend =>
      simp only [playerStep?, here, Option.some.injEq] at taken
      subst taken
      exact ⟨told_of_player told (fun _ => .inr rfl),
        fun _ playing => by cases playing⟩
  | suspended =>
      simp only [playerStep?, here] at taken
      cases taken
  | testNote song thisNote =>
      have kept :=
        fun player => told_of_player told (inside (by simp [here])
          (by simp [here]) player)
      simp only [playerStep?, here] at taken
      split at taken
      · cases taken
        exact ⟨kept _, fun other playing =>
          playsActed other (by rw [here]; exact playing)⟩
      · cases taken
        exact ⟨kept _, fun _ playing => by cases playing⟩
  | testPlay song thisNote =>
      have kept :=
        fun player => told_of_player told (inside (by simp [here])
          (by simp [here]) player)
      simp only [playerStep?, here] at taken
      split at taken
      · cases taken
        exact ⟨kept _, fun other playing =>
          playsActed other (by rw [here]; exact playing)⟩
      · cases taken
        exact ⟨kept _, fun _ playing => by cases playing⟩
  | playNote song thisNote =>
      simp only [playerStep?, here, Option.some.injEq] at taken
      subst taken
      exact ⟨told_of_player told (inside (by simp [here]) (by simp [here]) _),
        fun other playing => playsActed other (by rw [here]; exact playing)⟩
  | clearPlay =>
      simp only [playerStep?, here, Option.some.injEq] at taken
      subst taken
      refine ⟨?_, fun _ playing => by cases playing⟩
      obtain ⟨musicToPlay, temp, play, player, melody⟩ := state
      simp only at here
      subst here
      cases melody with
      | setPlay request | resume request =>
          rcases told.2 with impossible | impossible <;> cases impossible
      | testFinished request | condWait request | waiting request =>
          exact ⟨told.1, rfl⟩
      | setTempNone => rfl
      | _ => exact told
  | broadcast =>
      simp only [playerStep?, here, Option.some.injEq] at taken
      subst taken
      refine ⟨?_, fun _ playing => by cases playing⟩
      obtain ⟨musicToPlay, temp, play, player, melody⟩ := state
      simp only at here
      subst here
      cases melody with
      | waiting request => exact ⟨told.1, .inl rfl⟩
      | setPlay request | resume request => exact ⟨told.1, .inl rfl⟩
      | _ => exact told

/-- Step lemma: every statement keeps the two threads in tune. -/
theorem inTune_step
    {state next : State}
    {action : Action}
    (inTune : InTune state)
    (taken : step? state action = some next) :
    InTune next := by
  cases action with
  | setMusicToPlay song =>
      cases taken
      exact ⟨inTune.told, inTune.playsActed⟩
  | player => exact inTune_playerStep inTune taken
  | melody => exact inTune_melodyStep inTune taken

theorem inTune_of_reachable
    {state : State}
    (reachable : Reachable step? start state) :
    InTune state :=
  reachable.invariant inTune_step inTune_start

/-- The note about to be played is a note of the song. -/
def InLength (state : State) : Prop :=
  match state.player with
  | .testPlay song thisNote | .playNote song thisNote =>
      thisNote < song.length
  | _ => True

theorem inLength_start : InLength start := trivial

/-- The index of a song is tested before each note. -/
theorem inLength_step
    {state next : State}
    {action : Action}
    (inLength : InLength state)
    (taken : step? state action = some next) :
    InLength next := by
  obtain ⟨musicToPlay, temp, play, player, melody⟩ := state
  cases action with
  | setMusicToPlay song =>
      cases taken
      exact inLength
  | player =>
      simp only [step?] at taken
      cases player with
      | suspended => cases taken
      | testNote song thisNote =>
          simp only [playerStep?] at taken
          split at taken
          · rename_i more
            cases taken
            exact more
          · cases taken
            trivial
      | testPlay song thisNote =>
          simp only [playerStep?] at taken
          split at taken
          · cases taken
            exact inLength
          · cases taken
            trivial
      | suspend | playNote song thisNote | clearPlay | broadcast =>
          cases taken
          trivial
  | melody =>
      simp only [step?] at taken
      cases melody with
      | waiting request => cases taken
      | switch | testFinished request | testSimple request =>
          simp only [melodyStep?] at taken
          repeat' split at taken
          all_goals
            cases taken
            exact inLength
      | resume request =>
          simp only [melodyStep?] at taken
          split at taken
          · cases taken
            trivial
          · cases taken
            exact inLength
      | _ =>
          cases taken
          exact inLength

/-- Only the test of `play` lets a note begin. -/
theorem testPlay_of_begins
    {state next : State}
    {song : SongSelectionExt}
    {thisNote : Nat}
    (taken : step? state .player = some next)
    (begins : next.player = .playNote song thisNote) :
    state.player = .testPlay song thisNote ∧ state.play = true := by
  obtain ⟨musicToPlay, temp, play, player, melody⟩ := state
  simp only [step?] at taken
  cases player with
  | suspended => cases taken
  | testNote other otherNote =>
      simp only [playerStep?] at taken
      split at taken
      · cases taken
        cases begins
      · cases taken
        cases begins
  | testPlay other otherNote =>
      simp only [playerStep?] at taken
      split at taken
      · rename_i up
        cases taken
        cases begins
        exact ⟨rfl, up⟩
      · cases taken
        cases begins
  | suspend | playNote other otherNote | clearPlay | broadcast =>
      cases taken
      cases begins

/--
In every interleaving of the two threads with any songs that main asks for, a
note is begun only for the song that `Melody_player` has asked for last, and
only inside its tables.
-/
theorem begins_acted_song
    {state next : State}
    {song : SongSelectionExt}
    {thisNote : Nat}
    (reachable : Reachable step? start state)
    (taken : step? state .player = some next)
    (begins : next.player = .playNote song thisNote) :
    songOf? (acted state) = some song ∧ thisNote < song.length := by
  have inTune := inTune_of_reachable reachable
  have inLength : InLength state :=
    reachable.invariant inLength_step inLength_start
  obtain ⟨testing, up⟩ := testPlay_of_begins taken begins
  rw [InLength, testing] at inLength
  exact ⟨inTune.playsActed song (by rw [testing]; rfl) up, inLength⟩

/-- From the start until the first note of the tavern song is begun. -/
def firstNote : List Action :=
  [.setMusicToPlay .tavernSong, .player] ++ List.replicate 6 .melody ++
    [.player]

theorem begins_acted_song_tavernSong :
    songOf? Music.tavernSong = some .theTavernSong ∧
      0 < SongSelectionExt.length .theTavernSong := by
  let state : State :=
    ⟨.tavernSong, .tavernSong, true, .testPlay .theTavernSong 0, .sleep⟩
  have ran : run? step? start firstNote = some state := by decide
  exact @begins_acted_song state
    { state with player := .playNote .theTavernSong 0 } .theTavernSong 0
    ⟨firstNote, ran⟩ rfl rfl

end EPuckTavern.Melody
