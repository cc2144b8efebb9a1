import EPuckTavern.Scenario
import EPuckTavern.Transition.Run

namespace EPuckTavern.Scenario

open Transition

/-!
# The beer timer of the tavern stroll

A watch beside main notes the clock at the first loop iteration of each call
of `tavern_phase` and at the first one after each beer: from there the timeout
should run.  `beer_time` agrees with the watch in the first visit to the
tavern, before its first beer.  Otherwise it is either older, left by an
earlier visit, or newer, renewed by every iteration after a beer.
-/

/-- Main, the last clock reading, and the watch. -/
structure Watched where
  main : State
  clock : Systime
  /-- The next iteration is the first of its call, or after a beer. -/
  first : Bool
  /-- The clock at the last such iteration. -/
  reference : Systime
  /-- Some call has made an iteration. -/
  iterated : Bool
  /-- A call before the current one has made an iteration. -/
  returning : Bool
  /-- A beer has been served in the current call. -/
  served : Bool
  deriving Repr, DecidableEq

namespace Watched

/-- Before the first reading of the clock. -/
def boot : Watched where
  main := Scenario.boot
  clock := 0
  first := false
  reference := 0
  iterated := false
  returning := false
  served := false

/-- What the watch expects of the next iteration after a step of main. -/
def firstAfter (state : Watched) (reading : Reading) : Bool :=
  match state.main.pc with
  | .tavernEnter => true
  | .tavernAwaitBeer => reading.beerServed || state.first
  | .tavernStamp => false
  | _ => state.first

/-- The watch is set where an iteration looks at `beer_time`. -/
def referenceAfter (state : Watched) (reading : Reading) : Systime :=
  match state.main.pc with
  | .tavernStamp =>
      if state.first then reading.now else state.reference
  | _ => state.reference

/-- Whether `tavern_phase` has run an iteration since boot. -/
def iteratedAfter (state : Watched) : Bool :=
  match state.main.pc with
  | .tavernStamp => true
  | _ => state.iterated

/-- A call that begins finds the iterations of the calls before it. -/
def returningAfter (state : Watched) : Bool :=
  match state.main.pc with
  | .tavernEnter => state.iterated
  | _ => state.returning

/-- Whether a beer has been served in this call. -/
def servedAfter (state : Watched) (reading : Reading) : Bool :=
  match state.main.pc with
  | .tavernEnter => false
  | .tavernAwaitBeer => reading.beerServed || state.served
  | _ => state.served

/-- One step of main, on a clock that neither goes back nor reads 0. -/
def step? : Step Watched Reading
  | state, reading =>
      if reading.now = 0 ∨ reading.now < state.clock then
        none
      else
        some {
          main := step reading state.main
          clock := reading.now
          first := state.firstAfter reading
          reference := state.referenceAfter reading
          iterated := state.iteratedAfter
          returning := state.returningAfter
          served := state.servedAfter reading
        }

/-- `S2ST(TIMEOUR_BEER_STROLL)` -/
def timeoutTicks : Nat :=
  (s2st timeourBeerStroll).toNat

/--
At the test of the timeout, the thirst branch is taken exactly when more than
`TIMEOUR_BEER_STROLL` has passed on the watch.
-/
def TimerHonoured (state : Watched) (reading : Reading) : Prop :=
  state.main.pc = .tavernElapsed →
  ((step reading state.main).pc = .tavernAwaitColor ↔
    state.reference.toNat + timeoutTicks < reading.now.toNat)

/--
At the test of the timeout: before a beer, no earlier visit has made an
iteration; after one, no more than `TIMEOUR_BEER_STROLL` has passed since the
first iteration that followed it.
-/
def FirstVisit (state : Watched) (reading : Reading) : Prop :=
  state.main.pc = .tavernElapsed →
  if state.served then
    reading.now.toNat ≤ state.reference.toNat + timeoutTicks
  else
    state.returning = false

instance
    (state : Watched)
    (reading : Reading) :
    Decidable (state.FirstVisit reading) :=
  inferInstanceAs (Decidable (_ → ite _ _ _))

/-- How `beer_time` stands to the watch at a control point. -/
def Related (state : Watched) : Prop :=
  match state.main.pc with
  | .tavernTest | .tavernStamp =>
      state.main.thirsty = !state.served ∧
        (state.served = false →
          state.returning = false →
          if state.first then
            state.iterated = false
          else
            state.main.beerTime ≠ 0 ∧
              state.main.beerTime = state.reference)
  | .tavernElapsed =>
      state.first = false ∧
        state.main.thirsty = !state.served ∧
        if state.served then
          state.reference ≤ state.main.beerTime
        else
          state.returning = false →
          state.main.beerTime ≠ 0 ∧ state.main.beerTime = state.reference
  | _ => True

/-- What the statics stand for at each iteration, and that no date is ahead. -/
structure Consistent (state : Watched) : Prop where
  beerPast : state.main.beerTime ≤ state.clock
  referencePast : state.reference ≤ state.clock
  unset : state.iterated = false → state.main.beerTime = 0
  related : state.Related

theorem consistent_boot : Consistent boot :=
  ⟨UInt32.le_refl 0, UInt32.le_refl 0, fun _ => rfl, trivial⟩

/-- A step has a clock reading that is not 0 and not before the last one. -/
theorem step?_some
    {state next : Watched}
    {reading : Reading}
    (taken : step? state reading = some next) :
    reading.now ≠ 0 ∧ state.clock ≤ reading.now ∧
      next = {
        main := step reading state.main
        clock := reading.now
        first := state.firstAfter reading
        reference := state.referenceAfter reading
        iterated := state.iteratedAfter
        returning := state.returningAfter
        served := state.servedAfter reading
      } := by
  simp only [step?] at taken
  split at taken
  · cases taken
  · rename_i proper
    obtain ⟨nonZero, ordered⟩ := not_or.mp proper
    cases taken
    exact ⟨nonZero, UInt32.not_lt.mp ordered, rfl⟩

/-- `beer_time` is a date of the past. -/
theorem beerTime_step_le
    {state : State}
    {reading : Reading}
    (past : state.beerTime ≤ reading.now) :
    (step reading state).beerTime ≤ reading.now := by
  obtain ⟨pc, _, _, beerTime, thirsty, _⟩ := state
  cases pc <;> simp only [step, control, State.return]
  case tavernStamp =>
    split
    · exact UInt32.le_refl _
    · exact past
  all_goals first | exact past | (split <;> exact past)

/-- So is the date that the delay is counted from. -/
theorem referenceAfter_le
    {state : Watched}
    {reading : Reading}
    (past : state.reference ≤ reading.now) :
    state.referenceAfter reading ≤ reading.now := by
  simp only [referenceAfter]
  split
  · split
    · exact UInt32.le_refl _
    · exact past
  · exact past

/-- `beer_time` stays 0 until an iteration stamps it. -/
theorem beerTime_step_of_unset
    {state : Watched}
    (reading : Reading)
    (unset : state.iterated = false → state.main.beerTime = 0)
    (still : state.iteratedAfter = false) :
    (step reading state.main).beerTime = 0 := by
  obtain ⟨⟨pc, _, _, beerTime, thirsty, _⟩, clock, first, reference,
    iterated, returning, served⟩ := state
  cases pc <;> simp only [step, control, State.return]
  case tavernStamp => cases still
  all_goals first | exact unset still | (split <;> exact unset still)

/-- An iteration looks at `beer_time`, and stamps it where it has to. -/
theorem related_stamp
    {state : Watched}
    {reading : Reading}
    (nonZero : reading.now ≠ 0)
    (referenceNow : state.reference ≤ reading.now)
    (unset : state.iterated = false → state.main.beerTime = 0)
    (here : state.main.pc = .tavernStamp)
    (related : state.Related) :
    Related {
      main := step reading state.main
      clock := reading.now
      first := state.firstAfter reading
      reference := state.referenceAfter reading
      iterated := state.iteratedAfter
      returning := state.returningAfter
      served := state.servedAfter reading
    } := by
  have atTest : (step reading state.main).pc = .tavernElapsed := by
    simp only [step, control, here]
    split <;> rfl
  simp only [Related, here] at related
  simp only [Related, atTest, firstAfter, returningAfter, servedAfter, here,
    true_and]
  obtain ⟨thirst, own⟩ := related
  have earlier := referenceAfter_le referenceNow
  cases served : state.served with
  | true =>
      rw [served] at thirst
      simp only [step, control, here, thirst, Bool.not_true, Bool.not_false,
        Bool.or_true, ↓reduceIte]
      exact ⟨trivial, earlier⟩
  | false =>
      rw [served] at thirst
      have visit := own served
      by_cases firstVisit : state.returning = false
      · specialize visit firstVisit
        cases isFirst : state.first with
        | true =>
            rw [isFirst, if_pos rfl] at visit
            simp only [step, control, here, thirst, unset visit,
              referenceAfter, isFirst, decide_true, Bool.true_or,
              ↓reduceIte, Bool.not_false, Bool.false_eq_true]
            exact ⟨trivial, fun _ => ⟨nonZero, trivial⟩⟩
        | false =>
            simp only [isFirst, Bool.false_eq_true, ↓reduceIte] at visit
            simp only [step, control, here, thirst, visit.1,
              referenceAfter, isFirst, decide_false, Bool.not_false,
              Bool.not_true, Bool.or_self, Bool.false_eq_true, ↓reduceIte]
            exact ⟨trivial, fun _ => visit⟩
      · refine ⟨?_, fun contradiction => absurd contradiction firstVisit⟩
        simp only [step, control, here]
        split <;> exact thirst

/-- Step lemma: `beer_time` stays related to the watch. -/
theorem consistent_step
    {state next : Watched}
    {reading : Reading}
    (consistent : Consistent state)
    (taken : step? state reading = some next) :
    Consistent next := by
  obtain ⟨nonZero, ordered, rfl⟩ := step?_some taken
  obtain ⟨beerPast, referencePast, unset, related⟩ := consistent
  have beerNow := UInt32.le_trans beerPast ordered
  have referenceNow := UInt32.le_trans referencePast ordered
  refine ⟨beerTime_step_le beerNow, referenceAfter_le referenceNow,
    beerTime_step_of_unset reading unset, ?_⟩
  obtain ⟨⟨pc, _, _, beerTime, thirsty, _⟩, clock, first, reference,
    iterated, returning, served⟩ := state
  cases pc with
  | tavernEnter =>
      exact ⟨rfl, fun _ firstVisit => firstVisit⟩
  | tavernTest =>
      by_cases stays : reading.selector = tavernModeSelection
      · simp only [Related, step, control, stays, ↓reduceIte]
        exact related
      · simp only [Related, step, control, stays, ↓reduceIte, State.return]
  | tavernStamp =>
      exact related_stamp nonZero referenceNow unset rfl related
  | tavernElapsed =>
      by_cases late : timeout reading.now beerTime = true
      · simp [Related, step, control, late]
      · obtain ⟨notFirst, thirst, own⟩ := related
        subst notFirst
        simp only [Related, step, control, late]
        refine ⟨thirst, fun notServed firstVisit => ?_⟩
        subst notServed
        exact own firstVisit
  | tavernAwaitColor =>
      cases found : reading.goodColor <;>
        simp [Related, step, control, found]
  | tavernAwaitBeer =>
      cases served : reading.beerServed <;>
        simp [Related, step, control, firstAfter, servedAfter, served]
  | mainTestTavern =>
      by_cases here : reading.selector = tavernModeSelection <;>
        simp [Related, step, control, here]
  | mainTestHunt | huntTestSelector =>
      by_cases here : reading.selector = huntModeSelection <;>
        simp [Related, step, control, here, State.return]
  | huntAwaitColor =>
      cases found : reading.goodColor <;>
        simp [Related, step, control, found]
  | huntAwaitDone | huntTestDone =>
      cases done : reading.jobIsDone <;>
        simp [Related, step, control, done, State.return]
  | _ => trivial

/--
The test of `tavern_phase` on natural numbers: no wrap, as `beer_time` is
past.
-/
theorem thirsts_iff
    {state : Watched}
    {reading : Reading}
    (past : state.main.beerTime ≤ reading.now)
    (here : state.main.pc = .tavernElapsed) :
    (step reading state.main).pc = .tavernAwaitColor ↔
      state.main.beerTime.toNat + timeoutTicks < reading.now.toNat := by
  have test :
      timeout reading.now state.main.beerTime = true ↔
        state.main.beerTime.toNat + timeoutTicks < reading.now.toNat :=
    decide_eq_true_iff.trans (lt_elapsed_iff past _)
  rw [← test]
  by_cases late : timeout reading.now state.main.beerTime = true <;>
    simp [step, control, here, late]

/-- On a first visit `beer_time` is the date the delay is to be counted from. -/
theorem timerHonoured_of_firstVisit
    {state next : Watched}
    {reading : Reading}
    (consistent : Consistent state)
    (own : FirstVisit state reading)
    (taken : step? state reading = some next) :
    TimerHonoured state reading := by
  obtain ⟨-, ordered, -⟩ := step?_some taken
  obtain ⟨beerPast, -, -, related⟩ := consistent
  intro here
  have visit := own here
  rw [thirsts_iff (UInt32.le_trans beerPast ordered) here]
  simp only [Related, here] at related
  obtain ⟨-, -, stamped⟩ := related
  cases served : state.served with
  | true =>
      simp only [served, ↓reduceIte] at visit stamped
      have newer := UInt32.le_iff_toNat_le.mp stamped
      omega
  | false =>
      simp only [served, Bool.false_eq_true, ↓reduceIte] at visit stamped
      rw [(stamped visit).2]

/--
In every run of main, on a clock that neither goes back nor reads 0: if it
visits the tavern once, and stays after a beer for no longer than
`TIMEOUR_BEER_STROLL`, the beer timer is honoured at every test.
-/
theorem alongTimerHonoured
    (readings : List Reading)
    (once : Along step? FirstVisit boot readings) :
    Along step? TimerHonoured boot readings :=
  once.consequence (fun consistent _ => consistent_step consistent)
    timerHonoured_of_firstVisit consistent_boot

/-- A reading of the clock and of the selector; no worker has finished. -/
def glance (now : Systime) (selector : Fin 16) : Reading where
  selector := selector
  now := now
  goodColor := false
  beerServed := false
  jobIsDone := false

/--
The tavern is entered at t = 1, thirst comes at t = 15002 and a beer at
t = 18000; the last test is exactly fifteen seconds later.
-/
def firstVisit : List Reading :=
  List.replicate 4 (glance 1 tavernModeSelection) ++
    [glance 15002 tavernModeSelection,
      { glance 16000 tavernModeSelection with goodColor := true },
      { glance 18000 tavernModeSelection with beerServed := true }] ++
    List.replicate 3 (glance 18000 tavernModeSelection) ++
    List.replicate 3 (glance 33000 tavernModeSelection)

/-- A first visit with a beer, and a test at the end of the delay after it. -/
theorem firstVisit_honoured :
    ((run? step? boot firstVisit).any fun state =>
      state.served && state.reference == 18000 &&
        state.main.pc == .tavernTest) = true ∧
    Along step? TimerHonoured boot firstVisit :=
  ⟨by decide, alongTimerHonoured firstVisit (by decide)⟩

/--
The tavern is entered and left at once; twenty seconds later it is entered
again, and main comes to its first test of the timeout.
-/
def secondVisit : List Reading :=
  List.replicate 5 (glance 1 tavernModeSelection) ++
    List.replicate 3 (glance 1 (Fin.last 15)) ++
    List.replicate 4 (glance 20000 tavernModeSelection)

/-- A second visit to the tavern can be thirsty in its first iteration. -/
theorem thirsty_on_second_visit :
    ¬ ∀ readings, Along step? TimerHonoured boot readings := by
  intro honoured
  have ran :
      run? step? boot secondVisit =
        some ((run? step? boot secondVisit).getD boot) :=
    rfl
  have last :=
    along_last
      (honoured (secondVisit ++ [glance 20000 tavernModeSelection])) ran rfl
  exact absurd ((last rfl).mp rfl) (by decide)

end Watched

end EPuckTavern.Scenario
