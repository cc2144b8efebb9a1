import EPuckTavern.WorkerMotors

namespace EPuckTavern.Scan

open Transition

/-!
# The distances that `Scan` approaches

The guard tests two readings of the sensor, and the distance is computed from
a third one, which the sensor thread may have updated in between.  The guard
then says nothing about the distance that is passed to `distance_approach`.
-/

/-- The distances that the guard is there for. -/
def InRange (distApproach : Int) : Prop :=
  minScanDist - scanDist < distApproach ∧
    distApproach < maxScanDist - scanDist

/-- A call of `distance_approach` before the colour scan is in range. -/
def ApproachesInRange (state : Solo program) : Prop :=
  state.thread.pc = .drive .approach .driveLeft →
    InRange state.thread.distApproach

/-- The reading that the distance is computed from would pass the guard. -/
def UsesInRange (state : Solo program) : Solo.Action program → Prop
  | .flags _ => True
  | .statement input _ =>
      state.thread.pc = .readDist →
        belowMax input.distMm = true ∧ aboveMin input.distMm = true

/-- The range is what the two tests of `Scan` let through. -/
theorem inRange_iff
    {distMm : UInt16} :
    InRange (toInt16 (distMm.toNat - scanDist)) ↔
      belowMax distMm = true ∧ aboveMin distMm = true := by
  have bounded := distMm.toNat_lt
  rw [belowMax, aboveMin, decide_eq_true_eq, decide_eq_true_eq]
  simp only [InRange, toInt16, Int.bmod, scanDist, minScanDist,
    maxScanDist]
  omega

/-- The only way into the approach is by a reading. -/
theorem readDist_of_approach
    {input : Input}
    {mustStop : Bool}
    {thread : Local}
    (called :
      (next input mustStop thread).pc = .drive .approach .driveLeft) :
    thread.pc = .readDist ∧
      (next input mustStop thread).distApproach =
        toInt16 (input.distMm.toNat - scanDist) := by
  obtain ⟨pc, distApproach, colorScanned⟩ := thread
  cases pc with
  | readDist => exact ⟨rfl, rfl⟩
  | testMustStop => cases mustStop <;> cases called
  | testMax | spin =>
      cases within : belowMax input.distMm <;>
        simp [next, within] at called
  | testMin =>
      cases within : aboveMin input.distMm <;>
        simp [next, within] at called
  | testColor =>
      cases found : colorFound input.colorMode colorScanned <;>
        simp [next, found] at called
  | drive leg point =>
      simp only [next] at called
      split at called
      · rename_i following advances
        cases called
        cases point with
        | driveRight =>
            simp only [DistanceApproach.next?] at advances
            split at advances <;> cases advances
        | _ => cases advances
      · cases leg <;> cases called
  | colorScan point =>
      simp only [next] at called
      split at called <;> cases called
  | _ => cases called

section Runs

variable
  {state next : Solo program}
  {action : Solo.Action program}

/-- Step lemma: a call is in range if the reading behind it is. -/
theorem approachesInRange_step
    (inRange : ApproachesInRange state)
    (uses : UsesInRange state action)
    (taken : Solo.step? command? state action = some next) :
    ApproachesInRange next := by
  rcases Solo.step?_cases taken with
    ⟨found, rfl, rfl⟩ | ⟨input, elapsed, rfl, present, rfl⟩
  · exact inRange
  · intro called
    obtain ⟨reading, distance⟩ :=
      @readDist_of_approach input state.flags.mustStop state.thread called
    exact distance ▸ inRange_iff.mpr (uses reading)

/-- A reading out of range is passed on at once. -/
theorem usesInRange_of_approachesInRange
    (taken : Solo.step? command? state action = some next)
    (inRange : ApproachesInRange next) :
    UsesInRange state action := by
  rcases Solo.step?_cases taken with
    ⟨found, rfl, rfl⟩ | ⟨input, elapsed, rfl, present, rfl⟩
  · exact trivial
  · intro reading
    have after :
        Scan.next input state.flags.mustStop state.thread =
          { state.thread with
            pc := .drive .approach .driveLeft
            distApproach := toInt16 (input.distMm.toNat - scanDist) } := by
      simp only [Scan.next, reading]
    have called :
        (Solo.statement command? state input elapsed).thread.pc =
          .drive .approach .driveLeft :=
      congrArg Local.pc after
    have distance :
        (Solo.statement command? state input elapsed).thread.distApproach =
          toInt16 (input.distMm.toNat - scanDist) :=
      congrArg Local.distApproach after
    exact inRange_iff.mp (distance ▸ inRange called)

end Runs

/--
In every run of `Scan`, with any values at its reads: every distance that it
passes to `distance_approach` before a colour scan is in range exactly when
every reading that a distance is computed from would pass the guard.
-/
theorem approachesInRange_iff
    (flags : WorkerFlags)
    (motors : Motors)
    (actions : List (Solo.Action program)) :
    (∀ leading state,
        leading <+: actions →
        run? (Solo.step? command?) (.start _ flags () motors) leading =
          some state →
        ApproachesInRange state) ↔
      Along (Solo.step? command?) UsesInRange
        (.start _ flags () motors) actions := by
  constructor
  · intro visited
    refine along_of_forall_prefix
      fun leading action state next before ran taken => ?_
    have arrived := run?_append ran (run?_cons_of_step taken [])
    exact usesInRange_of_approachesInRange taken
      (visited _ next before arrived)
  · rintro along leading state ⟨rest, rfl⟩ ran
    have initially :
        ApproachesInRange (Solo.start program flags () motors) :=
      nofun
    exact run?_invariant_along approachesInRange_step initially
      ((along_append ran rest).mp along).1 ran

/-- What the sensor says when nothing is in front of it. -/
def outOfSight : UInt16 := 8190

/-- A statement of `Scan`, with the distance that it reads if it reads one. -/
def reads (distMm : UInt16) : Solo.Action program :=
  .statement ⟨distMm, false, false, .noir⟩ 0

/-- The object disappears between the guard and the third reading. -/
def objectLost : List (Solo.Action program) :=
  [reads 300, reads 300, reads 300, reads outOfSight]

/-- `Scan` sets off for an object eight metres away. -/
theorem approaches_out_of_range :
    ¬ ∀ flags motors actions state,
      (∀ input elapsed,
        .statement input elapsed ∈ actions →
        UInt16.toNat input.distMm ≤ 8191) →
      run? (Solo.step? command?) (.start _ flags () motors) actions =
        some state →
      ApproachesInRange state := by
  intro approaches
  have values :
      ∀ input elapsed,
        .statement input elapsed ∈ objectLost →
        UInt16.toNat input.distMm ≤ 8191 := by
    intro input elapsed member
    simp only [objectLost, reads, List.mem_cons, List.not_mem_nil,
      or_false] at member
    rcases member with same | same | same | same <;> cases same <;>
      decide
  have inRange :=
    approaches .initial .stopped objectLost _ values rfl rfl
  exact absurd inRange.2 (by decide)

end EPuckTavern.Scan
