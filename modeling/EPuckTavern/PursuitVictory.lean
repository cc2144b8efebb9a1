import EPuckTavern.Pursuit
import EPuckTavern.DistanceFilter

namespace EPuckTavern.PidDistance

open Transition

/-!
# Pursuits that begin with a movement

The speeds of all pursuits together are a function of the distances they have
read, since the window and the regulator's sums outlive them as well.  The
first pursuit that reads anything finds `stable_time` unset and sets it.  A
later one finds the value of an earlier one, and replaces it as soon as it
computes a speed that is not 0.  So every victory is earned in a run where
each later pursuit computes such a speed from its first distance.
-/

variable {round : ℚ → ℚ}

/-- The statics after passes with these readings, from the initial ones. -/
def memoryAfter (round : ℚ → ℚ) (readings : List UInt16) : Memory :=
  readings.foldl
    (fun memory distMm => (computeSpeed round distMm memory).2)
    Memory.initial

/-- The error of a reading: that of the mean of the last ten. -/
def errorAfter
    (round : ℚ → ℚ)
    (earlier : List UInt16)
    (distMm : UInt16) : ℚ :=
  round (((meanAfter earlier distMm).toNat : ℚ) - goalDist)

/-- The control law after a reading, as `int16_t`. -/
def lawAfter
    (round : ℚ → ℚ)
    (earlier : List UInt16)
    (distMm : UInt16) : Int :=
  let error := errorAfter round earlier distMm
  let pid := (memoryAfter round earlier).pid
  toInt16 (truncate
    (controlSpeed round error
      (clampSumError round (round (pid.sumError + error)))
      pid.previousError))

/--
A reading sets the robot in motion: the mean of the last ten is outside the
dead band, and the terms of the control law do not cancel.
-/
def SetsInMotion
    (round : ℚ → ℚ)
    (earlier : List UInt16)
    (distMm : UInt16) : Prop :=
  errorThreshold ≤ |errorAfter round earlier distMm| ∧
    lawAfter round earlier distMm ≠ 0

instance
    (earlier : List UInt16)
    (distMm : UInt16) :
    Decidable (SetsInMotion round earlier distMm) :=
  inferInstanceAs (Decidable (_ ∧ _))

/-- The statics hold what these readings leave, and some `stable_time`. -/
def Recorded
    (round : ℚ → ℚ)
    (readings : List UInt16)
    (memory : Memory) : Prop :=
  memory =
    { memoryAfter round readings with stableTime := memory.stableTime }

/-- A pass does not look at `stable_time` for its speed. -/
theorem computeSpeed_withStableTime
    (distMm : UInt16)
    (memory : Memory)
    (stableTime : Systime) :
    computeSpeed round distMm { memory with stableTime := stableTime } =
      ((computeSpeed round distMm memory).1,
        { (computeSpeed round distMm memory).2 with
          stableTime := stableTime }) := by
  simp only [computeSpeed]

theorem memoryAfter_concat
    (readings : List UInt16)
    (distMm : UInt16) :
    memoryAfter round (readings ++ [distMm]) =
      (computeSpeed round distMm (memoryAfter round readings)).2 := by
  rw [memoryAfter, List.foldl_append]
  rfl

/-- The window is that of the filter alone. -/
theorem window_memoryAfter
    (readings : List UInt16) :
    (memoryAfter round readings).window = windowAfter readings := by
  induction readings using List.reverseRecOn with
  | nil =>
      rfl
  | append_singleton readings distMm inductionHypothesis =>
      rw [memoryAfter_concat, windowAfter, List.foldl_append]
      exact congrArg (fun window => (getMeanDistanceMm window distMm).2)
        inductionHypothesis

namespace Recorded

variable {readings : List UInt16} {memory : Memory}

/-- Nothing has been read when the robot starts. -/
theorem initial : Recorded round [] Memory.initial :=
  rfl

/-- `stable_time` is no part of what the readings leave behind. -/
theorem restamp
    (recorded : Recorded round readings memory)
    (stableTime : Systime) :
    Recorded round readings { memory with stableTime := stableTime } := by
  rw [Recorded] at recorded ⊢
  rw [recorded]

/-- The next reading goes into the window and the regulator. -/
theorem compute
    (recorded : Recorded round readings memory)
    (distMm : UInt16) :
    Recorded round (readings ++ [distMm])
      (computeSpeed round distMm memory).2 := by
  rw [Recorded] at recorded ⊢
  rw [recorded, computeSpeed_withStableTime, memoryAfter_concat]

/-- A reading that sets the robot in motion gives a speed that is not 0. -/
theorem speed_ne_zero
    {distMm : UInt16}
    (recorded : Recorded round readings memory)
    (moving : SetsInMotion round readings distMm) :
    (computeSpeed round distMm memory).1 ≠ 0 := by
  have mean :
      meanOf ((memoryAfter round readings).window.push distMm) =
        meanAfter readings distMm := by
    rw [window_memoryAfter]
    rfl
  rw [recorded, computeSpeed_withStableTime]
  have outside :
      ¬ |round (((meanAfter readings distMm).toNat : ℚ) - goalDist)| <
        errorThreshold :=
    not_lt_of_ge moving.1
  simp only [computeSpeed, getMeanDistanceMm, pidRegulator, mean, outside,
    ↓reduceIte]
  exact moving.2

end Recorded

/-- What the thread has read by the end of a statement. -/
theorem recorded_next
    {readings : List UInt16}
    {memory : Memory}
    (input : Input)
    (mustStop : Bool)
    (thread : Local)
    (speeds : List SpeedRecord)
    (recorded :
      Recorded round
        (readings ++ (speeds.map SpeedRecord.distMm).reverse) memory) :
    Recorded round
      (readings ++
        ((thread.noted round input memory speeds).map
          SpeedRecord.distMm).reverse)
      (next round input mustStop thread memory).2 := by
  obtain ⟨pc, speed⟩ := thread
  cases pc with
  | testMustStop => cases mustStop <;> exact recorded
  | testStableTime =>
      simp only [next, initStableTime]
      split
      · exact recorded.restamp _
      · exact recorded
  | compute =>
      simp only [Local.noted, List.map_cons, List.reverse_cons,
        ← List.append_assoc]
      exact recorded.compute input.distMm
  | testSpeed =>
      simp only [next]
      split
      · split <;> exact recorded
      · exact recorded.restamp _
  | _ => exact recorded

/--
What holds in front of a statement of the pursuit, if each later one begins
with a movement: unless the pursuit has read nothing yet, `stable_time` is
its own, or about to be renewed.
-/
def Renewed
    (startTime stableTime : Systime)
    (earlier : List UInt16)
    (speeds : List SpeedRecord)
    (thread : Local) : Prop :=
  match thread.pc with
  | .testMustStop | .testStableTime =>
      (speeds = [] ∧ (earlier = [] → stableTime = 0)) ∨
        startTime ≤ stableTime
  | .compute =>
      (speeds = [] ∧ earlier ≠ []) ∨ startTime ≤ stableTime
  | .setRight | .setLeft | .testSpeed =>
      speeds ≠ [] ∧ (thread.speed ≠ 0 ∨ startTime ≤ stableTime)
  | .sleepUntil | .setDone => startTime ≤ stableTime
  | _ => True

/-- The first distance of a later pursuit sets the robot in motion. -/
def Local.BeginsMoving
    (round : ℚ → ℚ)
    (input : Input)
    (thread : Local)
    (earlier : List UInt16)
    (speeds : List SpeedRecord) : Prop :=
  thread.pc = .compute → earlier ≠ [] → speeds = [] →
    SetsInMotion round earlier input.distMm

/-- Step lemma of the thread: every statement keeps `stable_time` renewed. -/
theorem renewed_next
    {startTime : Systime}
    {earlier : List UInt16}
    {speeds : List SpeedRecord}
    {thread : Local}
    {memory : Memory}
    {input : Input}
    (mustStop : Bool)
    (started : startTime ≤ input.now)
    (recorded :
      Recorded round
        (earlier ++ (speeds.map SpeedRecord.distMm).reverse) memory)
    (begins : thread.BeginsMoving round input earlier speeds)
    (renewed :
      Renewed startTime memory.stableTime earlier speeds thread) :
    Renewed startTime
      (next round input mustStop thread memory).2.stableTime
      earlier
      (thread.noted round input memory speeds)
      (next round input mustStop thread memory).1 := by
  obtain ⟨pc, speed⟩ := thread
  cases pc with
  | testMustStop =>
      cases mustStop with
      | true => trivial
      | false => exact renewed
  | testStableTime =>
      -- The first pursuit of all sets `stable_time` here.
      simp only [next, initStableTime]
      split
      · exact .inr started
      · rename_i isSet
        rcases renewed with ⟨nothing, unset⟩ | own
        · exact .inl ⟨nothing, fun isFirst => isSet (unset isFirst)⟩
        · exact .inr own
  | compute =>
      refine ⟨List.cons_ne_nil _ _, ?_⟩
      rcases renewed with ⟨nothing, isLater⟩ | own
      · subst nothing
        rw [List.map_nil, List.reverse_nil, List.append_nil] at recorded
        exact .inl (recorded.speed_ne_zero (begins rfl isLater rfl))
      · exact .inr own
  | testSpeed =>
      by_cases still : speed = 0
      · have own := renewed.2.resolve_left (not_not_intro still)
        simp only [next, still, ↓reduceIte]
        split <;> exact own
      · simp only [next, still, ↓reduceIte]
        exact started
  | sleepUntil => exact .inr renewed
  | setRight | setLeft => exact renewed
  | exited exit => trivial
  | _ => trivial

namespace Timed

open WorkerProgram

/-- The first distance of a pursuit, if an earlier one has read any. -/
def firstReading?
    (state : Timed round)
    (timed : TimedActor) : Option UInt16 :=
  match timed.actor with
  | .worker index distMm =>
      match state.system.workers[index]? with
      | some ⟨.compute, _⟩ =>
          if state.earlier ≠ [] ∧ state.speeds = [] then
            some distMm
          else
            none
      | _ => none
  | _ => none

/-- The first distance of a later pursuit sets the robot in motion. -/
def BeginsMoving (state : Timed round) (timed : TimedActor) : Prop :=
  ∀ distMm ∈ state.firstReading? timed,
    SetsInMotion round state.earlier distMm

instance
    (state : Timed round)
    (timed : TimedActor) :
    Decidable (state.BeginsMoving timed) :=
  Option.decidableForallMem (state.firstReading? timed)

/-- What is asked of a step of the system is asked of its worker's thread. -/
theorem BeginsMoving.ofWorker
    {state : Timed round}
    {now : Systime}
    {index : Nat}
    {distMm : UInt16}
    {thread : Local}
    (begins : state.BeginsMoving ⟨now, .worker index distMm⟩)
    (current : state.system.workers[index]? = some thread) :
    thread.BeginsMoving round ⟨now, distMm⟩ state.earlier
      state.speeds := by
  obtain ⟨pc, speed⟩ := thread
  rintro rfl isLater nothing
  refine begins distMm ?_
  simp only [firstReading?, current, nothing]
  exact if_pos ⟨isLater, trivial⟩

/-- System and ledger fit together, if each later pursuit begins moving. -/
structure Fresh (state : Timed round) : Prop where
  consistent : Consistent state
  recorded :
    Recorded round (state.earlier ++ state.readings) state.system.statics
  /-- Before the first distance, `stable_time` is set in front of it only. -/
  unset :
    state.earlier = [] →
    state.speeds = [] →
    (∀ index speed, ¬ state.At index .compute speed) →
    state.system.statics.stableTime = 0
  renewed :
    ∀ {index thread},
      RegisteredAt state.system index thread →
      Renewed state.startTime state.system.statics.stableTime
        state.earlier state.speeds thread

theorem fresh_boot
    (round : ℚ → ℚ) :
    Fresh (boot round) where
  consistent := consistent_boot round
  recorded := Recorded.initial
  unset _ _ _ := rfl
  renewed registered := by
    simp [RegisteredAt, boot, WorkerProgram.boot] at registered

theorem Fresh.pass
    {state : Timed round}
    {system : WorkerProgram.State (program round)}
    {now : Systime}
    (fresh : Fresh state)
    (consistent :
      Consistent { state with system := system, clock := now })
    (sameStatics : system.statics = state.system.statics)
    (sameWorkers : system.workers = state.system.workers) :
    Fresh { state with system := system, clock := now } where
  consistent := consistent
  recorded := by
    rw [sameStatics]
    exact fresh.recorded
  unset first nothing nowhere := by
    simp only [At, sameWorkers] at nowhere
    rw [sameStatics]
    exact fresh.unset first nothing nowhere
  renewed registered := by
    rw [RegisteredAt, sameWorkers] at registered
    rw [sameStatics]
    exact fresh.renewed registered

/-- No pursuit is on its way while another one is created. -/
theorem Fresh.create
    {state : Timed round}
    {now : Systime}
    (fresh : Fresh state)
    (calling : state.system.call = some [])
    (consistent : Consistent (state.afterCreate now)) :
    Fresh (state.afterCreate now) := by
  have unset
      (first : state.earlier ++ state.readings = []) :
      state.system.statics.stableTime = 0 := by
    obtain ⟨isFirst, nothing⟩ := List.append_eq_nil_iff.mp first
    refine fresh.unset isFirst ?_ fun index speed here => ?_
    · simpa [readings] using nothing
    · exact fresh.consistent.wellFormed.noneRegistered calling
        ⟨here, rfl⟩
  refine ⟨consistent, ?_, fun first _ _ => unset first, ?_⟩
  · have same := List.append_nil (state.earlier ++ state.readings)
    exact same.symm ▸ fresh.recorded
  · intro index thread registered
    have isLast := (consistent.wellFormed.last registered).1
    simp only [afterCreate, List.length_append, List.length_singleton]
      at isLast
    obtain ⟨found, -⟩ := registered
    rw [Nat.succ_injective isLast, afterCreate,
      List.getElem?_concat_length] at found
    cases found
    exact .inl ⟨rfl, unset⟩

/-- Only in front of the first distance is `stable_time` set without one. -/
theorem stableTime_next_eq
    {startTime : Systime}
    {earlier : List UInt16}
    {speeds : List SpeedRecord}
    {thread : Local}
    {memory : Memory}
    (input : Input)
    (mustStop : Bool)
    (renewed :
      Renewed startTime memory.stableTime earlier speeds thread)
    (nothing : thread.noted round input memory speeds = [])
    (nowhere : (next round input mustStop thread memory).1.pc ≠ .compute) :
    (next round input mustStop thread memory).2.stableTime =
        memory.stableTime ∧
      speeds = [] ∧ thread.pc ≠ .compute := by
  obtain ⟨pc, speed⟩ := thread
  cases pc with
  | testMustStop => cases mustStop <;> exact ⟨rfl, nothing, nofun⟩
  | testStableTime => exact absurd rfl nowhere
  | compute => cases nothing
  | testSpeed => exact absurd nothing renewed.1
  | _ => exact ⟨rfl, nothing, nofun⟩

/-- Until the first distance, a step leaves `stable_time` unset. -/
theorem Fresh.unset_afterWorker
    {state : Timed round}
    {index : Nat}
    {thread : Local}
    {input : Input}
    (fresh : Fresh state)
    (current : state.system.workers[index]? = some thread)
    (isFirst : state.earlier = [])
    (nothing :
      thread.noted round input state.system.statics state.speeds = [])
    (nowhere :
      ∀ other speed,
        ¬ (state.afterWorker index thread input).At other .compute speed) :
    (state.afterWorker index thread input).system.statics.stableTime = 0 := by
  cases registered : (stage thread.pc).registered with
  | true =>
      have here : RegisteredAt state.system index thread :=
        ⟨current, registered⟩
      have notHere :
          (next round input state.system.flags.mustStop thread
            state.system.statics).1.pc ≠ .compute := by
        intro atCompute
        refine nowhere index
          (next round input state.system.flags.mustStop thread
            state.system.statics).1.speed ?_
        rw [← atCompute]
        exact getElem?_workerStep_self current
      obtain ⟨same, nothingBefore, elsewhere⟩ :=
        stableTime_next_eq _ _ (fresh.renewed here) nothing notHere
      refine same.trans
        (fresh.unset isFirst nothingBefore fun other speed found => ?_)
      obtain rfl := fresh.consistent.wellFormed.unique here ⟨found, rfl⟩
      rw [At, current] at found
      cases found
      exact elsewhere rfl
  | false =>
      obtain ⟨sameMemory, sameSpeeds⟩ :=
        next_of_unregistered round registered input
          state.system.flags.mustStop state.system.statics state.speeds
      refine (congrArg Memory.stableTime sameMemory).trans
        (fresh.unset isFirst (sameSpeeds.symm.trans nothing)
          fun other speed found => ?_)
      have different : other ≠ index := by
        rintro rfl
        rw [At, current] at found
        cases found
        cases registered
      exact nowhere other speed
        ((getElem?_workerStep current).trans
          ((if_neg different).trans found))

/-- A step keeps the `stable_time` of each pursuit renewed. -/
theorem Fresh.renewed_afterWorker
    {state : Timed round}
    {index other : Nat}
    {thread otherThread : Local}
    {now : Systime}
    {distMm : UInt16}
    (fresh : Fresh state)
    (begins : state.BeginsMoving ⟨now, .worker index distMm⟩)
    (ordered : state.clock ≤ now)
    (current : state.system.workers[index]? = some thread)
    (alive : (stage thread.pc).hasExited = false)
    (registered :
      RegisteredAt (state.afterWorker index thread ⟨now, distMm⟩).system
        other otherThread) :
    Renewed state.startTime
      (state.afterWorker index thread
        ⟨now, distMm⟩).system.statics.stableTime
      state.earlier
      (thread.noted round ⟨now, distMm⟩ state.system.statics state.speeds)
      otherThread := by
  have started := UInt32.le_trans fresh.consistent.started ordered
  rcases registeredAt_workerStep_cases
      fresh.consistent.wellFormed current alive registered with
    ⟨before, rfl, rfl⟩ | ⟨gone, untouched⟩
  · exact renewed_next _ started fresh.recorded (begins.ofWorker current)
      (fresh.renewed ⟨current, before⟩)
  · obtain ⟨sameMemory, sameSpeeds⟩ :=
      next_of_unregistered round gone ⟨now, distMm⟩
        state.system.flags.mustStop state.system.statics state.speeds
    simp only [afterWorker, WorkerProgram.workerStep, program]
    rw [sameMemory, sameSpeeds]
    exact fresh.renewed untouched

/-- A step of a worker whose pursuit begins moving stays fresh. -/
theorem Fresh.workerStep
    {state : Timed round}
    {index : Nat}
    {thread : Local}
    {now : Systime}
    {distMm : UInt16}
    (fresh : Fresh state)
    (begins : state.BeginsMoving ⟨now, .worker index distMm⟩)
    (ordered : state.clock ≤ now)
    (current : state.system.workers[index]? = some thread)
    (alive : (stage thread.pc).hasExited = false)
    (consistent :
      Consistent (state.afterWorker index thread ⟨now, distMm⟩)) :
    Fresh (state.afterWorker index thread ⟨now, distMm⟩) where
  consistent := consistent
  recorded := recorded_next _ _ _ _ fresh.recorded
  unset := fresh.unset_afterWorker current
  renewed := fresh.renewed_afterWorker begins ordered current alive

/-- Step lemma: a step that meets the condition keeps all of it fitting. -/
theorem fresh_step
    {state next : Timed round}
    {timed : TimedActor}
    (fresh : Fresh state)
    (begins : state.BeginsMoving timed)
    (taken : step? state timed = some next) :
    Fresh next := by
  have consistent := consistent_step fresh.consistent taken
  obtain ⟨ordered, -, ended⟩ := step?_cases taken
  rcases ended with
    ⟨system, rfl, sameStatics, sameWorkers⟩ | ⟨calling, rfl⟩ |
    ⟨index, distMm, thread, acts, current, alive, rfl⟩
  · exact fresh.pass consistent sameStatics sameWorkers
  · exact fresh.create calling consistent
  · obtain ⟨now, actor⟩ := timed
    cases acts
    exact fresh.workerStep begins ordered current alive consistent

/--
In every run of pursuits on a clock that never goes back: if the first
distance of each pursuit sets the robot in motion, unless no earlier pursuit
has read any, then every victory is earned.
-/
theorem alongVictoryEarned
    (round : ℚ → ℚ)
    (actions : List TimedActor)
    (begins : Along step? BeginsMoving (boot round) actions) :
    Along step? VictoryEarned (boot round) actions := by
  refine begins.consequence fresh_step ?_ (fresh_boot round)
  intro state timed next fresh _ taken
  refine (victoryEarned_iff_notInherited fresh.consistent taken).mpr ?_
  rintro ⟨index, distMm, speed, -, here⟩ ⟨inherited, -⟩
  have own : state.startTime ≤ state.system.statics.stableTime :=
    fresh.renewed ⟨here, rfl⟩
  exact UInt32.not_lt.mpr own inherited

/-- Steps of one actor at one reading of the clock. -/
def many (count : Nat) (now : Systime) (actor : Actor) : List TimedActor :=
  List.replicate count ⟨now, actor⟩

/-- A pursuit moves back at a mean of 20 mm, and is stopped. -/
def stoppedPursuit : List TimedActor :=
  ⟨1, .start⟩ :: many 4 1 .caller ++ many 7 1 (.worker 0 200) ++
    ⟨2, .stop⟩ :: many 6 2 (.worker 0 0)

/--
Ten seconds later another pursuit is started.  It still moves back, at a mean
of 25 mm, then stands at 45 mm and wins three seconds after its movement.
-/
def movingPursuit : List TimedActor :=
  ⟨10000, .start⟩ :: many 4 10000 .caller ++
    many 7 10000 (.worker 1 50) ++ many 7 10100 (.worker 1 200) ++
    many 7 13001 (.worker 1 0)

/-- The second pursuit wins, and has earned it. -/
theorem moving_pursuit_earns :
    ((run? step? (boot id) (stoppedPursuit ++ movingPursuit)).any fun state =>
      state.system.flags.done && state.system.workers.length == 2) = true ∧
    Along step? VictoryEarned (boot id) (stoppedPursuit ++ movingPursuit) :=
  ⟨by decide +kernel,
    alongVictoryEarned id (stoppedPursuit ++ movingPursuit)
      (by decide +kernel)⟩

/-- A pursuit stands still at 50 mm for four seconds and wins. -/
def standingPursuit : List TimedActor :=
  ⟨1, .start⟩ :: many 4 1 .caller ++
    many 7 1 (.worker 0 500) ++ many 17 4001 (.worker 0 0)

/--
After that pursuit another one is started six seconds later, and finds the
target at the same distance.
-/
def twoPursuits : List TimedActor :=
  standingPursuit ++
    ⟨10000, .start⟩ :: many 4 10000 .caller ++ many 6 10000 (.worker 1 0)

/-- The second pursuit is about to set `is_done` in its first pass. -/
def secondVictory : Timed id :=
  (run? step? (boot id) twoPursuits).getD (boot id)

/-- The second pursuit wins at once, on the stability of the first. -/
theorem second_pursuit_wins_at_once :
    ¬ ∀ round actions,
      Along step? VictoryEarned (boot round) actions := by
  intro earned
  have ran :
      run? step? (boot id) twoPursuits = some secondVictory := by
    with_unfolding_all rfl
  have enabled : (step? secondVictory ⟨10000, .worker 1 0⟩).isSome := by
    with_unfolding_all rfl
  have here : secondVictory.At 1 .setDone 0 := by
    with_unfolding_all rfl
  have started : secondVictory.startTime = 10000 := by
    with_unfolding_all rfl
  obtain ⟨next, taken⟩ := Option.isSome_iff_exists.mp enabled
  have last := along_last (earned id (twoPursuits ++ [_])) ran taken
  have late := (last ⟨1, 0, 0, rfl, here⟩).1
  rw [started] at late
  exact absurd late (by decide)

end Timed

end EPuckTavern.PidDistance
