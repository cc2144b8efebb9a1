import EPuckTavern.Scenario
import EPuckTavern.Transition.Run

namespace EPuckTavern.Melody

open Transition
open Scenario (Music)

/-!
# The songs: `melody_player.c` and `play_melody.c`

`Melody_player` looks ten times a second at the song that main has asked for,
and `PlayMelodyThd` plays the notes.  The two share the flag `play`, the
reference `play_melody_ref`, which is not `NULL` exactly while the second is
suspended, and a condition variable.  `PlayMelodyThd` broadcasts on the
condition variable without the lock that goes with it, and nobody else ever
takes that lock.
-/

/-- `song_selection_ext_t` -/
inductive SongSelectionExt where
  | megalovania
  | pokemonTrainerBattle
  | victoryFanfare
  | theTavernSong
  | radar
  deriving Repr, DecidableEq

/-- The `length` of `melody`, in notes. -/
def SongSelectionExt.length : SongSelectionExt → Nat
  | .megalovania => 150
  | .pokemonTrainerBattle => 45
  | .victoryFanfare => 9
  | .theTavernSong => 129
  | .radar => 2

/-- The cases of the `switch` in `Melody_player`; the default plays nothing. -/
def songOf? : Music → Option SongSelectionExt
  | .noSong => none
  | .tavernSong => some .theTavernSong
  | .pursuitSong => some .megalovania
  | .enemyDetectionSong => some .pokemonTrainerBattle
  | .victorySong => some .victoryFanfare
  | .radarSong => some .radar

/-- Control points of `PlayMelodyThd`. -/
inductive PlayerPc where
  | suspend
  /-- In `chThdSuspendS`; `play_melody_ref` is not `NULL`. -/
  | suspended
  /-- `thisNote < song->length` -/
  | testNote (song : SongSelectionExt) (thisNote : Nat)
  /-- `if(!play)` -/
  | testPlay (song : SongSelectionExt) (thisNote : Nat)
  /-- `playNote` and the pause after it. -/
  | playNote (song : SongSelectionExt) (thisNote : Nat)
  | clearPlay
  | broadcast
  deriving Repr, DecidableEq

/-- A case of the `switch`, with the song it plays. -/
structure Request where
  music : Music
  song : SongSelectionExt
  deriving Repr, DecidableEq

/-- Control points of `Melody_player`, inside `playMelody` too. -/
inductive MelodyPc where
  | switch
  | stopNone
  | setTempNone
  /-- `stopCurrentMelody()` of `ML_FORCE_CHANGE`. -/
  | forceStop (request : Request)
  /-- `play_melody_ref == NULL` of `waitMelodyHasFinished`. -/
  | testFinished (request : Request)
  | condWait (request : Request)
  | waiting (request : Request)
  /-- `play_melody_ref != NULL` of `ML_SIMPLE_PLAY`. -/
  | testSimple (request : Request)
  | setPlay (request : Request)
  | resume (request : Request)
  | setTemp (request : Request)
  | sleep
  deriving Repr, DecidableEq

/-- The static variables of the two files, and where their threads stand. -/
structure State where
  musicToPlay : Music
  /-- The static `temp` of `Melody_player`. -/
  temp : Music
  play : Bool
  player : PlayerPc
  melody : MelodyPc
  deriving Repr, DecidableEq

/-- After `playMelodyStart` and `melody_player_start`. -/
def start : State where
  musicToPlay := .noSong
  temp := .noSong
  play := true
  player := .suspend
  melody := .switch

/-- `chCondBroadcast`: a thread that waits goes on, and no other. -/
def woken : MelodyPc → MelodyPc
  | .waiting request => .setPlay request
  | other => other

/-- A statement of `PlayMelodyThd`. -/
def playerStep? (state : State) : Option State :=
  match state.player with
  | .suspend => some { state with player := .suspended }
  | .suspended => none
  | .testNote song thisNote =>
      if thisNote < song.length then
        some { state with player := .testPlay song thisNote }
      else
        some { state with player := .clearPlay }
  | .testPlay song thisNote =>
      if state.play then
        some { state with player := .playNote song thisNote }
      else
        some { state with player := .clearPlay }
  | .playNote song thisNote =>
      some { state with player := .testNote song (thisNote + 1) }
  | .clearPlay => some { state with play := false, player := .broadcast }
  | .broadcast =>
      some { state with player := .suspend, melody := woken state.melody }

/-- A statement of `Melody_player`. -/
def melodyStep? (state : State) : Option State :=
  match state.melody with
  | .switch =>
      match songOf? state.musicToPlay with
      | none => some { state with melody := .stopNone }
      | some song =>
          if state.temp ≠ state.musicToPlay then
            some { state with melody := .forceStop ⟨state.musicToPlay, song⟩ }
          else
            some
              { state with melody := .testSimple ⟨state.musicToPlay, song⟩ }
  | .stopNone => some { state with play := false, melody := .setTempNone }
  | .setTempNone => some { state with temp := .noSong, melody := .sleep }
  | .forceStop request =>
      some { state with play := false, melody := .testFinished request }
  | .testFinished request =>
      if state.player = .suspended then
        some { state with melody := .setPlay request }
      else
        some { state with melody := .condWait request }
  | .condWait request => some { state with melody := .waiting request }
  | .waiting _ => none
  | .testSimple request =>
      if state.player = .suspended then
        some { state with melody := .setPlay request }
      else
        some { state with melody := .setTemp request }
  | .setPlay request =>
      some { state with play := true, melody := .resume request }
  | .resume request =>
      -- `chThdResume` does nothing while the reference is `NULL`.
      if state.player = .suspended then
        some { state with
          player := .testNote request.song 0
          melody := .setTemp request }
      else
        some { state with melody := .setTemp request }
  | .setTemp request =>
      some { state with temp := request.music, melody := .sleep }
  | .sleep => some { state with melody := .switch }

/-- A call of main, or a statement of one of the two threads. -/
inductive Action where
  /-- Main calls `set_music_to_play`. -/
  | setMusicToPlay (song : Music)
  | player
  | melody
  deriving Repr, DecidableEq

/-- One statement of a thread, or main's call, which is a single store. -/
def step? : Step State Action
  | state, .setMusicToPlay song =>
      some { state with musicToPlay := song }
  | state, .player => playerStep? state
  | state, .melody => melodyStep? state

end EPuckTavern.Melody
