import EPuckTavern.TavernTurns

namespace EPuckTavern

open Transition

/-!
# The colour that ends a scan

Main sets `color_mode` before it starts a scan and does not touch it again
before the flag is up.  A scan that is about to raise the flag has therefore
seen the black bar if main waits in the tavern, and the red enemy if main
waits in the hunt, whatever else has happened since boot.
-/

namespace Scenario

/-- The colour that a wait loop for the scan waits for. -/
def Pc.sought? : Pc → Option Couleur
  | .tavernAwaitColor => some .noir
  | .huntAwaitColor => some .rouge
  | _ => none

/-- The colour of the loop that main waits in is set. -/
def SeeksColor (state : State) : Prop :=
  ∀ color, state.pc.sought? = some color → state.settings.colorMode = color

theorem sought_of_awaits
    {pc : Pc}
    (awaits : pc.awaits? = some .scan) :
    ∃ color, pc.sought? = some color := by
  cases pc with
  | tavernAwaitColor => exact ⟨.noir, rfl⟩
  | huntAwaitColor => exact ⟨.rouge, rfl⟩
  | _ => cases awaits

/-- Each phase sets its colour before it waits. -/
theorem seeksColor_step
    {state : State}
    (seeks : SeeksColor state)
    (reading : Reading) :
    SeeksColor (step reading state) := by
  obtain ⟨pc, _, _, beerTime, _, settings⟩ := state
  intro color sought
  cases pc with
  | tavernElapsed =>
      by_cases late : timeout reading.now beerTime = true <;>
        simp_all [step, control, calls, Pc.sought?, Call.effect]
  | tavernAwaitColor | huntAwaitColor =>
      have before := seeks color
      cases found : reading.goodColor <;>
        simp_all [step, control, calls, Pc.sought?]
  | huntEnter =>
      simp_all [step, control, calls, Pc.sought?, Call.effect]
  | mainTestTavern | mainTestHunt | tavernTest | tavernStamp
  | tavernAwaitBeer | huntAwaitDone | huntTestSelector | huntTestDone =>
      simp only [step, control] at sought
      split at sought <;> simp_all [Pc.sought?, State.return]
  | _ =>
      simp [step, control, Pc.sought?] at sought

/-- Main waits for the colour that is set, at each time. -/
theorem seeksColor_after
    (readings : Nat → Reading)
    (count : Nat) :
    SeeksColor (after readings boot count) := by
  induction count with
  | zero => intro color sought; cases sought
  | succ previous inductionHypothesis =>
      exact seeksColor_step inductionHypothesis (readings previous)

end Scenario

/-- The colour that is found is the one that is set. -/
theorem Scan.eq_of_colorFound
    {colorMode colorScanned : Couleur}
    (found : Scan.colorFound colorMode colorScanned = true) :
    colorScanned = colorMode := by
  cases colorMode <;> cases colorScanned <;> first | rfl | cases found

/-- A statement comes to `good_color = 1` only with the colour found. -/
theorem Scan.colorFound_of_next
    {input : Scan.Input}
    {mustStop : Bool}
    {thread : Scan.Local}
    (found : (Scan.next input mustStop thread).pc = .setGoodColor) :
    Scan.colorFound input.colorMode
      (Scan.next input mustStop thread).colorScanned = true := by
  obtain ⟨pc, distApproach, colorScanned⟩ := thread
  cases pc with
  | testColor =>
      cases same : Scan.colorFound input.colorMode colorScanned <;>
        simp_all [Scan.next]
  | drive leg point =>
      cases moved :
          DistanceApproach.next? (leg.distance distApproach) point with
      | some following => simp [Scan.next, moved] at found
      | none => cases leg <;> simp [Scan.next, moved, Scan.Leg.after] at found
  | colorScan point =>
      cases read : ColorScan.step input.lineRed input.lineBlue point <;>
        simp [Scan.next, read] at found
  | testMustStop | testMax | testMin | spin =>
      simp only [Scan.next] at found
      split at found <;> cases found
  | _ =>
      simp [Scan.next] at found

namespace Tavern

open WorkerProgram (AtWork)

variable {round : ℚ → ℚ}

/-- A scan that is about to report has found what `color_mode` asks for. -/
def FoundColor (state : State round) : Prop :=
  ∀ (index : Nat) (thread : Scan.Local),
    (state.workers .scan).workers[index]? = some thread →
    thread.pc = .setGoodColor →
    Scan.colorFound state.scenario.settings.colorMode
      thread.colorScanned = true

/-- A thread that is about to report is at work. -/
theorem atWork_of_setGoodColor
    {system : WorkerProgram.State Scan.program}
    {index : Nat}
    {thread : Scan.Local}
    (found : system.workers[index]? = some thread)
    (reporting : thread.pc = .setGoodColor) :
    AtWork Scan.report system :=
  ⟨index, thread, found, .inr (decide_eq_true reporting)⟩

/-- Calls that start or stop create workers, and leave the rest alone. -/
theorem before_of_call
    {program : WorkerProgram}
    {before after : WorkerProgram.State program}
    {action : WorkerProgram.Action program}
    {index : Nat}
    {thread : program.Local}
    (taken : WorkerProgram.step? before action = some after)
    (isCall : ∀ index input, action ≠ .worker index input)
    (found : after.workers[index]? = some thread)
    (notEntry : thread ≠ program.entry) :
    before.workers[index]? = some thread := by
  rcases WorkerProgram.step?_cases taken with
    ⟨-, -, -, rfl⟩ |
    ⟨-, -, -, rfl⟩ |
    ⟨store, rest, -, -, rfl⟩ |
    ⟨-, -, rfl⟩ |
    ⟨-, -, rfl⟩ |
    ⟨place, input, _, stepped, -⟩
  · exact found
  · exact found
  · exact found
  · rw [List.getElem?_append] at found
    split at found
    · exact found
    · exact (notEntry
        (List.mem_singleton.mp (List.mem_of_getElem? found))).elim
  · exact found
  · exact (isCall place input stepped).elim

/-- A thread that is about to report is not new. -/
theorem ne_entry_of_setGoodColor
    {thread : Scan.Local}
    (reporting : thread.pc = .setGoodColor) :
    thread ≠ Scan.entry := by
  rintro rfl
  cases reporting

/-- Each step keeps what the thread has found. -/
theorem foundColor_step
    {state next : State round}
    {action : Action round}
    (ordered : Ordered state)
    (foundColor : FoundColor state)
    (taken : step? state action = some next) :
    FoundColor next := by
  have inTurn := ordered.inTurn .scan
  rcases step?_cases taken with
    ⟨selector, now, -, none, rfl⟩ |
    ⟨_, _, call, rest, worker, after, -, ahead, starts, moved, rfl⟩ |
    ⟨_, _, call, rest, worker, after, -, ahead, -, starts, moved, rfl⟩ |
    ⟨_, _, call, rest, -, ahead, starts, rfl⟩ |
    ⟨worker, place, input, after, -, moved, rfl⟩
  · intro index thread found reporting
    simp only [State.poll, Scenario.control_settings]
    exact foundColor index thread found reporting
  · intro index thread found reporting
    cases worker with
    | scan =>
        simp only [Function.update_self] at found
        refine foundColor index thread (before_of_call moved ?_ found
          (ne_entry_of_setGoodColor reporting)) reporting
        intro place input
        split <;> simp
    | _ => exact foundColor index thread found reporting
  · intro index thread found reporting
    cases worker with
    | scan =>
        simp only [Function.update_self] at found
        exact foundColor index thread (before_of_call moved (by simp) found
          (ne_entry_of_setGoodColor reporting)) reporting
    | _ => exact foundColor index thread found reporting
  · intro index thread found reporting
    rw [ahead] at inTurn
    exact (inTurn.away (atWork_of_setGoodColor found reporting)).elim
  · intro index thread found reporting
    cases worker with
    | scan =>
        simp only [Function.update_self] at found
        rcases WorkerProgram.step?_cases moved with
          ⟨impossible, -⟩ | ⟨impossible, -⟩ | ⟨_, _, impossible, -⟩ |
          ⟨impossible, -⟩ | ⟨impossible, -⟩ |
          ⟨_, _, before, stepped, current, -, rfl⟩
        case inr.inr.inr.inr.inr =>
            cases stepped
            rw [WorkerProgram.getElem?_workerStep current] at found
            split at found
            · cases found
              exact Scan.colorFound_of_next reporting
            · exact foundColor index thread found reporting
        all_goals cases impossible
    | _ => exact foundColor index thread found reporting

theorem foundColor_of_reachable
    {state : State round}
    (reachable : Reachable step? (boot round) state) :
    FoundColor state := by
  have both : Ordered state ∧ FoundColor state := by
    refine @Reachable.invariant _ _ _
      (fun state => Ordered state ∧ FoundColor state) ?_ _ _ ?_ reachable
    · rintro state action next ⟨ordered, foundColor⟩ taken
      exact ⟨ordered_step ordered taken,
        foundColor_step ordered foundColor taken⟩
    · refine ⟨ordered_boot, fun index thread found => ?_⟩
      simp [boot, WorkerProgram.boot] at found
  exact both.2

/-- An object 150 mm away that looks red. -/
def redObject : Scan.Input where
  distMm := 150
  lineRed := false
  lineBlue := true
  colorMode := .autre

/-- The scan of `hunting` has taken statements up to its report. -/
def redSeen : State id :=
  (run? step? hunting
    (List.replicate 16 (.worker .scan 0 redObject))).getD hunting

/-- The thread that has seen red. -/
def redSeenScan : Scan.Local :=
  ⟨.setGoodColor, -50, .rouge⟩

theorem reachable_redSeen : Reachable step? (boot id) redSeen :=
  ⟨intoHunt 13 ++ List.replicate 16 (.worker .scan 0 redObject),
    run?_append (run?_eq_some_getD rfl)
      (run?_eq_some_getD (by decide +kernel))⟩

theorem scan_redSeen :
    (redSeen.workers .scan).workers[0]? = some redSeenScan := by
  have same :
      @Eq (Option Scan.Local)
        (redSeen.workers .scan).workers[0]? (some redSeenScan) := by
    decide +kernel
  exact same

/--
In every interleaving, a scan that is about to set `good_color` has scanned
black while main waits in the tavern, or red while main waits in the hunt.
-/
theorem reports_sought_color
    {state : State round}
    {index : Nat}
    {thread : Scan.Local}
    (reachable : Reachable step? (boot round) state)
    (current : (state.workers .scan).workers[index]? = some thread)
    (reporting : thread.pc = .setGoodColor) :
    state.scenario.pc.sought? = some thread.colorScanned := by
  have inTurn := (ordered_of_reachable reachable).inTurn .scan
  have atWork := atWork_of_setGoodColor current reporting
  have awaits := inTurn.own (.inl atWork)
  have found :=
    foundColor_of_reachable reachable index thread current reporting
  obtain ⟨readings, count, settled⟩ := settled_after reachable
  have seeks := Scenario.seeksColor_after readings count
  rw [← settled] at seeks
  simp only [Scenario.SeeksColor, State.settled, inTurn.quiet atWork,
    List.foldl_nil] at seeks
  obtain ⟨color, sought⟩ := Scenario.sought_of_awaits awaits
  rw [sought, Scan.eq_of_colorFound found, seeks color sought]

theorem reports_sought_color_hunting :
    redSeen.scenario.pc.sought? = some .rouge := by
  exact @reports_sought_color id redSeen 0 redSeenScan
    reachable_redSeen scan_redSeen rfl

end Tavern

end EPuckTavern
