import EPuckTavern.WayBack

namespace EPuckTavern

open Transition

/-!
# Rejected objects and the bar leave the robot where it was

Between two loop heads of `Scan` the robot either turns in place or goes
through a pair of calls of `distance_approach`, and `Beer` does the latter at
most once.  The invariants say at each control point how far it is away.
-/

/-- Run lemma: what a worker's exact statements keep, its exact runs keep. -/
theorem Timetable.run
    {program : WorkerProgram}
    {command? : program.Local → Option MotorCommand}
    (timetable : Timetable program)
    (located : program.Local → Motors → ℚ → Prop)
    (kept :
      ∀ {input thread statics flags motors displacement elapsed},
        located thread motors displacement →
        (∀ time ∈ timetable.lasts thread, elapsed = time) →
        (∀ distance ∈ timetable.passes thread,
          DistanceApproach.Fits distance) →
        located (program.step input thread statics flags).1
          (motors.after (command? thread))
          (displacement + motors.advance elapsed))
    {flags : WorkerFlags}
    {statics : program.Statics}
    {motors : Motors}
    {actions : List (Solo.Action program)}
    {final : Solo program}
    (initially : located program.entry motors 0)
    (exact :
      Along (Solo.step? command?) timetable.Exact
        (.start _ flags statics motors) actions)
    (ran :
      run? (Solo.step? command?)
        (.start _ flags statics motors) actions = some final) :
    located final.thread final.motors final.displacement := by
  have preserved :
      ∀ {state : Solo program} {action next},
        located state.thread state.motors state.displacement →
        timetable.Exact state action →
        Solo.step? command? state action = some next →
        located next.thread next.motors next.displacement := by
    intro state action next now meets taken
    rcases Solo.step?_cases taken with
      ⟨found, rfl, rfl⟩ | ⟨input, elapsed, rfl, present, rfl⟩
    · exact now
    · exact kept now meets.1 meets.2
  have start :
      located (Solo.start program flags statics motors).thread
        (Solo.start program flags statics motors).motors
        (Solo.start program flags statics motors).displacement :=
    initially
  exact run?_invariant_along preserved start exact ran

namespace Scan

/-- `TIME_TO_SCAN` [ms]. -/
def timeToScan : ℚ := 500

/--
How long each statement of `Scan` lasts, and the distances it is called with.
-/
def timetable : Timetable program where
  lasts thread :=
    match thread.pc with
    | .drive leg point =>
        some (DistanceApproach.duration
          (leg.distance thread.distApproach) point)
    | .sleepScan => some timeToScan
    | .spin | .sleepUntil => none
    | _ => some 0
  passes thread :=
    match thread.pc with
    | .drive leg .driveLeft => some (leg.distance thread.distApproach)
    | _ => none

/-- Where the robot is at a control point of `Scan`. -/
def Located
    (thread : Local)
    (motors : Motors)
    (displacement : ℚ) : Prop :=
  match thread.pc with
  | .drive leg point =>
      leg.Underway thread.distApproach point motors displacement
  | .resumeImage | .sleepScan | .colorScan _ | .pauseImage | .testColor
  | .clearGoodColor =>
      Away thread.distApproach motors displacement
  | .turnRight | .searchRight =>
      motors.left = rotationSpeed ∧ displacement = 0
  | .spin | .sleepUntil =>
      Home motors displacement
  | .setGoodColor | .clearExistFound | .exitFound | .exited _ =>
      -- The robot stays in front of the object it was looking for.
      True
  | _ =>
      displacement = 0

/-- With the second command of the turn the robot is where it started. -/
theorem home_of_turning
    {motors : Motors}
    (turning : motors.left = rotationSpeed) :
    Home (motors.after (some (rightMotorSetSpeed (-rotationSpeed)))) 0 := by
  refine ⟨?_, rfl⟩
  simp [Motors.forward, turning]

/-- Each statement of `Scan` takes the robot where its control point tells. -/
theorem located_next
    {input : Input}
    {mustStop : Bool}
    {thread : Local}
    {motors : Motors}
    {displacement elapsed : ℚ}
    (located : Located thread motors displacement)
    (exact : ∀ time ∈ timetable.lasts thread, elapsed = time)
    (fits :
      ∀ distance ∈ timetable.passes thread,
        DistanceApproach.Fits distance) :
    Located (next input mustStop thread)
      (motors.after (command? thread))
      (displacement + motors.advance elapsed) := by
  obtain ⟨pc, distApproach, colorScanned⟩ := thread
  cases pc with
  | drive leg point =>
      have now := exact _ rfl
      have passed :
          point = .driveLeft →
            DistanceApproach.Fits (leg.distance distApproach) := by
        rintro rfl
        exact fits _ rfl
      cases advances :
          DistanceApproach.next? (leg.distance distApproach) point with
      | some following =>
          simp only [next, advances]
          exact Leg.underway_next located passed now advances
      | none =>
          have arrived := Leg.underway_return located passed now advances
          simp only [next, advances]
          cases leg with
          | approach => exact arrived
          | retreat => exact arrived.2
  | resumeImage | sleepScan | pauseImage => exact located.rest elapsed
  | colorScan point =>
      have away := located.rest elapsed
      simp only [next]
      split <;> exact away
  | testColor =>
      have away := located.rest elapsed
      simp only [next]
      split
      · exact trivial
      · exact away
  | clearGoodColor =>
      exact Leg.underway_retreat (located.rest elapsed)
  | turnRight | searchRight =>
      obtain ⟨turning, home⟩ := located
      obtain rfl := exact 0 rfl
      rw [Motors.advance_zero, add_zero, home]
      exact home_of_turning turning
  | spin =>
      have home := located.rest elapsed
      cases inRange : belowMax input.distMm <;>
        simp only [next, inRange, Bool.false_eq_true, ↓reduceIte] <;>
        exact home
  | sleepUntil => exact (located.rest elapsed).2
  | setGoodColor | clearExistFound | exitFound | exited _ =>
      exact trivial
  | testMustStop =>
      obtain rfl := exact 0 rfl
      rw [Motors.advance_zero, add_zero]
      cases mustStop <;> exact located
  | testMax =>
      obtain rfl := exact 0 rfl
      rw [Motors.advance_zero, add_zero]
      cases inRange : belowMax input.distMm <;>
        simp only [next, inRange, Bool.false_eq_true, ↓reduceIte] <;>
        exact located
  | testMin =>
      obtain rfl := exact 0 rfl
      rw [Motors.advance_zero, add_zero]
      cases inRange : aboveMin input.distMm <;>
        simp only [next, inRange, Bool.false_eq_true, ↓reduceIte] <;>
        exact located
  | readDist =>
      obtain rfl := exact 0 rfl
      rw [Motors.advance_zero, add_zero]
      exact ⟨.inl ⟨rfl, rfl⟩, located⟩
  | turnLeft | searchLeft =>
      obtain rfl := exact 0 rfl
      rw [Motors.advance_zero, add_zero]
      exact ⟨rfl, located⟩
  | stopLeft | stopRight | clearMustStop | clearExistStopped =>
      obtain rfl := exact 0 rfl
      rw [Motors.advance_zero, add_zero]
      exact located
  | exitStopped => exact trivial

end Scan

namespace Beer

/-- `BEER_WAIT`, as [ms]. -/
def beerWait : ℚ := 5 * 1000

/--
How long each statement of `Beer` lasts, and the distances it is called with.
-/
def timetable : Timetable program where
  lasts thread :=
    match thread.pc with
    | .drive leg point =>
        some (DistanceApproach.duration
          (leg.distance thread.distApproach) point)
    | .sleepBeer => some beerWait
    | .sleepUntil => none
    | _ => some 0
  passes thread :=
    match thread.pc with
    | .drive leg .driveLeft => some (leg.distance thread.distApproach)
    | _ => none

/-- Where the robot is at a control point of `Beer`. -/
def Located
    (thread : Local)
    (motors : Motors)
    (displacement : ℚ) : Prop :=
  match thread.pc with
  | .drive leg point =>
      leg.Underway thread.distApproach point motors displacement
  | .sleepBeer =>
      Away thread.distApproach motors displacement
  | _ =>
      Home motors displacement

/-- Each statement of `Beer` takes the robot where its control point tells. -/
theorem located_next
    {input : Input}
    {mustStop : Bool}
    {thread : Local}
    {motors : Motors}
    {displacement elapsed : ℚ}
    (located : Located thread motors displacement)
    (exact : ∀ time ∈ timetable.lasts thread, elapsed = time)
    (fits :
      ∀ distance ∈ timetable.passes thread,
        DistanceApproach.Fits distance) :
    Located (next input mustStop thread)
      (motors.after (command? thread))
      (displacement + motors.advance elapsed) := by
  obtain ⟨pc, distApproach⟩ := thread
  cases pc with
  | drive leg point =>
      have now := exact _ rfl
      have passed :
          point = .driveLeft →
            DistanceApproach.Fits (leg.distance distApproach) := by
        rintro rfl
        exact fits _ rfl
      cases advances :
          DistanceApproach.next? (leg.distance distApproach) point with
      | some following =>
          simp only [next, advances]
          exact Scan.Leg.underway_next located passed now advances
      | none =>
          have arrived :=
            Scan.Leg.underway_return located passed now advances
          simp only [next, advances]
          cases leg with
          | approach => exact arrived
          | retreat => exact arrived
  | sleepBeer =>
      exact Scan.Leg.underway_retreat (located.rest elapsed)
  | testMustStop =>
      have home := located.rest elapsed
      cases mustStop <;> exact home
  | testDist =>
      have home := located.rest elapsed
      simp only [next]
      split
      · exact ⟨.inl ⟨rfl, rfl⟩, home.2⟩
      · exact home
  | _ => exact located.rest elapsed

end Beer

/--
Taking sleeps as exact and distances whose step count fits: in every run of
`Scan`, from any motor speeds and with any flags stored by others, the robot
is where it set out from at every loop head; and in every run of `Beer` it is
so whenever the thread has exited, unless it was driving when `Beer` began.
-/
theorem displacement_eq_zero :
    (∀ {flags : WorkerFlags} {motors : Motors}
        {actions : List (Solo.Action Scan.program)}
        {final : Solo Scan.program},
      Along (Solo.step? Scan.command?) Scan.timetable.Exact
          (.start _ flags () motors) actions →
      run? (Solo.step? Scan.command?)
          (.start _ flags () motors) actions = some final →
      final.thread.pc = .testMustStop →
      final.displacement = 0) ∧
    ∀ {flags : WorkerFlags} {motors : Motors}
        {actions : List (Solo.Action Beer.program)}
        {final : Solo Beer.program},
      motors.forward = 0 →
      Along (Solo.step? Beer.command?) Beer.timetable.Exact
          (.start _ flags () motors) actions →
      run? (Solo.step? Beer.command?)
          (.start _ flags () motors) actions = some final →
      (Beer.stage final.thread.pc).hasExited = true →
      final.displacement = 0 := by
  constructor
  · intro flags motors actions final exact ran atHead
    have located :=
      Scan.timetable.run Scan.Located Scan.located_next
        rfl exact ran
    simp only [Scan.Located, atHead] at located
    exact located
  · intro flags motors actions final inPlace exact ran exited
    have located :=
      Beer.timetable.run Beer.Located Beer.located_next
        ⟨inPlace, rfl⟩ exact ran
    cases here : final.thread.pc with
    | exited exit =>
        simp only [Beer.Located, here] at located
        exact located.2
    | _ =>
        rw [here] at exited
        cases exited

/-- An object whose lines match no colour, while black is looked for. -/
def objectAt (distMm : UInt16) : Scan.Input where
  distMm := distMm
  lineRed := true
  lineBlue := false
  colorMode := .noir

/-- A statement of `Scan` in front of an object at this distance. -/
def facingObject
    (distMm : UInt16)
    (elapsed : ℚ) : Solo.Action Scan.program :=
  .statement (objectAt distMm) elapsed

/-- `Scan` drives up to an object 300 mm away, rejects it and turns away. -/
def objectRejected : List (Solo.Action Scan.program) :=
  List.flatten [
    List.replicate 6 (facingObject 300 0), [facingObject 300 990],
    List.replicate 3 (facingObject 200 0), [facingObject 200 500],
    List.replicate 8 (facingObject 200 0), [facingObject 200 990],
    List.replicate 4 (facingObject 300 0),
    [facingObject 500 7, facingObject 500 10]]

/-- A statement of `Beer` at 100 mm from the bar. -/
def facingBar (elapsed : ℚ) : Solo.Action Beer.program :=
  .statement ⟨100⟩ elapsed

/-- `Beer` visits a bar 100 mm away and exits. -/
def barVisited : List (Solo.Action Beer.program) :=
  List.flatten [
    List.replicate 5 (facingBar 0), [facingBar 743],
    List.replicate 2 (facingBar 0), [facingBar 5000],
    List.replicate 2 (facingBar 0), [facingBar 743],
    List.replicate 5 (facingBar 0)]

/-- `Scan` with the motors to itself. -/
def soloScan : Solo Scan.program :=
  .start _ .initial () .stopped

/-- `Beer` with the motors to itself. -/
def soloBeer : Solo Beer.program :=
  .start _ .initial () .stopped

theorem displacement_after_visits :
    ((run? (Solo.step? Scan.command?) soloScan objectRejected).getD
        soloScan).displacement = 0 ∧
      ((run? (Solo.step? Beer.command?) soloBeer barVisited).getD
        soloBeer).displacement = 0 :=
  ⟨displacement_eq_zero.1 (by decide +kernel)
      (run?_eq_some_getD (by decide +kernel)) (by decide +kernel),
    displacement_eq_zero.2 Motors.forward_stopped (by decide +kernel)
      (run?_eq_some_getD (by decide +kernel)) (by decide +kernel)⟩

end EPuckTavern
