import EPuckTavern.AvoidObstacles
import EPuckTavern.Scan
import EPuckTavern.Walk

namespace EPuckTavern.Scenario

/-!
# The scenario: `main.c`

Main alternates between the tavern stroll, the hunt and the emergency stop,
by the position of the selector.  It takes one step for each reading of the
selector, of the clock or of a worker's completion flag; the calls it makes
between two readings belong to the step.  It never blocks on anything but its
own sleeps, so a step is a total function of the reading.
-/

/-- `TIMEOUR_BEER_STROLL` [s]. -/
def timeourBeerStroll : UInt32 := 15

/-- `TAVERN_MODE_SELECTION` -/
def tavernModeSelection : Fin 16 := 0

/-- `HUNT_MODE_SELECTION` -/
def huntModeSelection : Fin 16 := 1

/-- `music`, what can be asked of `Melody_player` -/
inductive Music where
  | noSong
  | tavernSong
  | pursuitSong
  | enemyDetectionSong
  | victorySong
  | radarSong
  deriving Repr, DecidableEq

/-- The calls of main. -/
inductive Call where
  | setMusicToPlay (song : Music)
  | walkResumeThd
  | avoidObstaclesResumeThd
  | walkPauseThd
  | avoidObstaclesPauseThd
  | setColorMode (color : Couleur)
  | scanStart
  | beerStart
  | pidDistanceStart
  | stopBeer
  | stopScan
  | stopPid
  deriving Repr, DecidableEq

/-- Control points of main, each with the reading it takes next. -/
inductive Pc where
  /-- `get_selector() == TAVERN_MODE_SELECTION` -/
  | mainTestTavern
  /-- `get_selector() == HUNT_MODE_SELECTION` -/
  | mainTestHunt
  | mainSleepSecond
  | mainSleep
  | tavernEnter
  /-- `while(get_selector()==TAVERN_MODE_SELECTION)` -/
  | tavernTest
  /-- `if((!beer_time)||!thirsty)` -/
  | tavernStamp
  /-- `(chVTGetSystemTime() - beer_time) > S2ST(TIMEOUR_BEER_STROLL)` -/
  | tavernElapsed
  /-- `while(!get_good_color())` -/
  | tavernAwaitColor
  /-- `while(!get_beer_served())` -/
  | tavernAwaitBeer
  | huntEnter
  /-- `while(!get_good_color())` -/
  | huntAwaitColor
  | huntSleepDetection
  /-- `while(!get_job_is_done())` -/
  | huntAwaitDone
  | huntSleepVictory
  /-- `get_selector() == HUNT_MODE_SELECTION` -/
  | huntTestSelector
  /-- `&& get_job_is_done()` -/
  | huntTestDone
  deriving Repr, DecidableEq

/-- What the calls of main set in other modules. -/
structure Settings where
  walk : PauseFlags
  avoidObstacles : PauseFlags
  musicToPlay : Music
  colorMode : Couleur
  deriving Repr, DecidableEq

/-- The statics and locals of main, and what its calls have set. -/
structure State where
  pc : Pc
  /-- The static of `main`. -/
  tavernThreadsResumed : Bool
  /-- The parameter of the phase in progress. -/
  phaseThreadsResumed : Bool
  beerTime : Systime
  thirsty : Bool
  settings : Settings
  deriving Repr, DecidableEq

/-- At the head of `while (1)` for the first time. -/
def boot : State where
  pc := .mainTestTavern
  tavernThreadsResumed := false
  phaseThreadsResumed := false
  beerTime := 0
  thirsty := false
  settings := {
    walk := Walk.walkPauseThd (Walk.walkStartThd .initial)
    avoidObstacles :=
      AvoidObstacles.avoidObstaclesPauseThd
        (AvoidObstacles.avoidObstaclesStartThd .initial)
    musicToPlay := .noSong
    colorMode := .autre
  }

/-- What main reads in a step; each step uses one of the fields. -/
structure Reading where
  selector : Fin 16
  now : Systime
  goodColor : Bool
  beerServed : Bool
  jobIsDone : Bool
  deriving Repr, DecidableEq

/-- `chVTGetSystemTime() - beer_time > S2ST(TIMEOUR_BEER_STROLL)` -/
def timeout (now beerTime : Systime) : Bool :=
  now - beerTime > s2st timeourBeerStroll

/-- The calls that a step makes, in their order. -/
def calls (reading : Reading) (state : State) : List Call :=
  match state.pc with
  | .mainTestHunt =>
      if reading.selector = huntModeSelection then
        []
      else
        -- `reinit`
        [.setMusicToPlay .noSong, .walkPauseThd, .avoidObstaclesPauseThd,
          .stopBeer, .stopScan, .stopPid]
  | .tavernEnter =>
      if !state.phaseThreadsResumed then
        [.setMusicToPlay .tavernSong, .walkResumeThd,
          .avoidObstaclesResumeThd]
      else
        []
  | .tavernElapsed =>
      if timeout reading.now state.beerTime then
        [.walkPauseThd, .avoidObstaclesPauseThd, .setColorMode .noir,
          .scanStart]
      else
        []
  | .tavernAwaitColor =>
      if reading.goodColor then [.beerStart] else []
  | .tavernAwaitBeer =>
      if reading.beerServed && !state.phaseThreadsResumed then
        [.walkResumeThd, .avoidObstaclesResumeThd]
      else
        []
  | .huntEnter =>
      [.setMusicToPlay .noSong, .walkPauseThd, .avoidObstaclesPauseThd,
        .setColorMode .rouge, .setMusicToPlay .radarSong, .scanStart]
  | .huntAwaitColor =>
      if reading.goodColor then
        [.setMusicToPlay .enemyDetectionSong]
      else
        []
  | .huntSleepDetection => [.setMusicToPlay .pursuitSong, .pidDistanceStart]
  | .huntAwaitDone =>
      if reading.jobIsDone then [.setMusicToPlay .victorySong] else []
  | .huntSleepVictory => [.setMusicToPlay .noSong]
  | _ => []

/-- What a call sets; the workers' flags are their modules' own. -/
def Call.effect (settings : Settings) : Call → Settings
  | .setMusicToPlay song => { settings with musicToPlay := song }
  | .walkResumeThd =>
      { settings with walk := Walk.walkResumeThd settings.walk }
  | .avoidObstaclesResumeThd =>
      { settings with
        avoidObstacles :=
          AvoidObstacles.avoidObstaclesResumeThd settings.avoidObstacles }
  | .walkPauseThd =>
      { settings with walk := Walk.walkPauseThd settings.walk }
  | .avoidObstaclesPauseThd =>
      { settings with
        avoidObstacles :=
          AvoidObstacles.avoidObstaclesPauseThd settings.avoidObstacles }
  | .setColorMode color => { settings with colorMode := color }
  | _ => settings

/-- Return from a phase: its result is assigned to the static of `main`. -/
def State.return (state : State) (pc : Pc) : State :=
  { state with
    pc := pc
    tavernThreadsResumed := state.phaseThreadsResumed }

/-- The control flow of main, with its own variables. -/
def control (reading : Reading) (state : State) : State :=
  match state.pc with
  | .mainTestTavern =>
      if reading.selector = tavernModeSelection then
        { state with
          pc := .tavernEnter
          phaseThreadsResumed := state.tavernThreadsResumed }
      else
        { state with pc := .mainTestHunt }
  | .mainTestHunt =>
      if reading.selector = huntModeSelection then
        { state with
          pc := .huntEnter
          phaseThreadsResumed := state.tavernThreadsResumed }
      else
        -- `reinit` returns `false` whatever it is given.
        { state with pc := .mainSleep, tavernThreadsResumed := false }
  | .mainSleepSecond => { state with pc := .mainSleep }
  | .mainSleep => { state with pc := .mainTestTavern }
  | .tavernEnter =>
      { state with
        pc := .tavernTest, phaseThreadsResumed := true, thirsty := true }
  | .tavernTest =>
      if reading.selector = tavernModeSelection then
        { state with pc := .tavernStamp }
      else
        state.return .mainSleepSecond
  | .tavernStamp =>
      if state.beerTime = 0 || !state.thirsty then
        { state with pc := .tavernElapsed, beerTime := reading.now }
      else
        { state with pc := .tavernElapsed }
  | .tavernElapsed =>
      if timeout reading.now state.beerTime then
        { state with
          pc := .tavernAwaitColor
          thirsty := true
          phaseThreadsResumed := false }
      else
        { state with pc := .tavernTest }
  | .tavernAwaitColor =>
      if reading.goodColor then
        { state with pc := .tavernAwaitBeer }
      else
        state
  | .tavernAwaitBeer =>
      if reading.beerServed then
        { state with
          pc := .tavernTest
          thirsty := false
          phaseThreadsResumed := true }
      else
        state
  | .huntEnter =>
      { state with pc := .huntAwaitColor, phaseThreadsResumed := false }
  | .huntAwaitColor =>
      if reading.goodColor then
        { state with pc := .huntSleepDetection }
      else
        state
  | .huntSleepDetection => { state with pc := .huntAwaitDone }
  | .huntAwaitDone =>
      if reading.jobIsDone then
        { state with pc := .huntSleepVictory }
      else
        state
  | .huntSleepVictory => { state with pc := .huntTestSelector }
  | .huntTestSelector =>
      if reading.selector = huntModeSelection then
        { state with pc := .huntTestDone }
      else
        state.return .mainSleep
  | .huntTestDone =>
      if reading.jobIsDone then
        { state with pc := .huntTestSelector }
      else
        state.return .mainSleep

/-- A statement of main, with the effects of its calls on the settings. -/
def step (reading : Reading) (state : State) : State :=
  { control reading state with
    settings :=
      (calls reading state).foldl Call.effect state.settings }

end EPuckTavern.Scenario
