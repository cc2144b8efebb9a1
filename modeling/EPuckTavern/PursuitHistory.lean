import Mathlib.Data.UInt
import EPuckTavern.WorkerRegister

namespace EPuckTavern.PidDistance

open Transition Data WorkerProgram

/-!
# What a pursuit remembers of the earlier ones

A pursuit begins with the function statics as the earlier ones have left
them.  Of these, the sum of the errors, the last error, nine of the ten
samples and the age of `stable_time` can still be felt; the oldest sample,
the write index and the absolute time cannot.
-/

/-- What can be seen of a pursuit: its motor commands, and `is_done`. -/
inductive Event where
  | command (command : MotorCommand)
  | done
  deriving Repr, DecidableEq

/-- What a statement of the thread shows. -/
def Local.events (thread : Local) : List Event :=
  match command? thread with
  | some command => [.command command]
  | none => if thread.pc = .setDone then [.done] else []

variable {round : ℚ → ℚ}

/-- What a step of the system shows. -/
def emit
    (state : WorkerProgram.State (program round)) :
    WorkerProgram.Action (program round) → List Event
  | .worker index _ =>
      match state.workers[index]? with
      | some thread => Local.events thread
      | none => []
  | _ => []

/-- Between calls, and with every worker so far exited. -/
def Idle (state : WorkerProgram.State (program round)) : Prop :=
  state.call = none ∧ AllExited state

/-- A step of one worker, as a function of what it reads. -/
def stepOf
    (index : Nat)
    (input : Input) : WorkerProgram.Action (program round) :=
  .worker index input

/-- `pid_distance_start`, and then the steps of the worker it creates. -/
def pursuit
    (before : WorkerProgram.State (program round))
    (inputs : List Input) : List (WorkerProgram.Action (program round)) :=
  (.start :: List.replicate 4 .caller) ++
    inputs.map (stepOf before.workers.length)

/-- What is seen of the pursuit that starts at `before`. -/
def pursuitTrace
    (before : WorkerProgram.State (program round))
    (inputs : List Input) : List Event :=
  trace step? emit before (pursuit before inputs)

/-- The same reading at a later time. -/
def Input.shift (offset : Systime) (input : Input) : Input :=
  { input with now := input.now + offset }

/--
The two memories cannot be told apart by pursuits that start `offset` ticks
from one another.
-/
structure SameMemory
    (offset : Systime)
    (memory other : Memory) : Prop where
  pid : memory.pid = other.pid
  window : RingBuffer.Agree (nbSamples - 1) memory.window other.window
  stableTime :
    (memory.stableTime = 0 ∧ other.stableTime = 0) ∨
      (memory.stableTime ≠ 0 ∧ other.stableTime ≠ 0 ∧
        other.stableTime = memory.stableTime + offset)

namespace SameMemory

variable {offset : Systime} {memory other : Memory}

/-- A common reading makes the two means the same. -/
theorem mean_eq
    (same : SameMemory offset memory other)
    (distMm : UInt16) :
    (getMeanDistanceMm memory.window distMm).1 =
      (getMeanDistanceMm other.window distMm).1 := by
  have agree := same.window.push distMm
  have sums :
      (memory.window.push distMm).cells.foldl (· + ·) 0 =
        (other.window.push distMm).cells.foldl (· + ·) 0 :=
    RingBuffer.foldl_cells_congr (· + ·)
      (agree.newest_eq (Nat.le_refl _)) 0
  simp only [getMeanDistanceMm, meanOf, sums]

/-- The same reading gives the same speed, and the same statics again. -/
theorem computeSpeed
    (same : SameMemory offset memory other)
    (distMm : UInt16) :
    (computeSpeed round distMm memory).1 =
        (PidDistance.computeSpeed round distMm other).1 ∧
      SameMemory offset (PidDistance.computeSpeed round distMm memory).2
        (PidDistance.computeSpeed round distMm other).2 := by
  have agree := same.window.push distMm
  simp only [PidDistance.computeSpeed, same.mean_eq distMm, same.pid]
  exact ⟨trivial, rfl, agree.mono (Nat.sub_le _ _), same.stableTime⟩

/-- `stable_time` is set in both pursuits, or was set in both. -/
theorem initStableTime
    (same : SameMemory offset memory other)
    {now : Systime}
    (nonZero : now ≠ 0)
    (otherNonZero : now + offset ≠ 0) :
    SameMemory offset (initStableTime now memory)
      (PidDistance.initStableTime (now + offset) other) := by
  rcases same.stableTime with ⟨unset, otherUnset⟩ | ⟨set, otherSet, shifted⟩
  · simp only [PidDistance.initStableTime, unset, otherUnset, ↓reduceIte]
    exact ⟨same.pid, same.window, .inr ⟨nonZero, otherNonZero, rfl⟩⟩
  · simp only [PidDistance.initStableTime, set, otherSet, ↓reduceIte]
    exact same

/-- A new `stable_time` is taken from both clocks. -/
theorem renew
    (same : SameMemory offset memory other)
    {now : Systime}
    (nonZero : now ≠ 0)
    (otherNonZero : now + offset ≠ 0) :
    SameMemory offset { memory with stableTime := now }
      { other with stableTime := now + offset } :=
  ⟨same.pid, same.window, .inr ⟨nonZero, otherNonZero, rfl⟩⟩

/-- Both pursuits have been stable for the same time. -/
theorem stableFor_eq
    (same : SameMemory offset memory other)
    (set : memory.stableTime ≠ 0)
    (now : Systime) :
    stableFor now memory.stableTime =
      stableFor (now + offset) other.stableTime := by
  rcases same.stableTime with ⟨unset, -⟩ | ⟨-, -, shifted⟩
  · exact (set unset).elim
  · simp only [stableFor, shifted, add_sub_add_right_eq_sub]

end SameMemory

/-- The statements between the two uses of `stable_time` in a pass. -/
def Pc.stamped : Pc → Bool
  | .compute | .setRight | .setLeft | .testSpeed => true
  | _ => false

/-- Two pursuits at the same local state, with matching memories. -/
structure Paired
    (offset : Systime)
    (thread : Local)
    (memory other : Memory) : Prop where
  same : SameMemory offset memory other
  set : thread.pc.stamped = true → memory.stableTime ≠ 0

/-- Step lemma: a common reading keeps the two pursuits paired. -/
theorem paired_next
    (round : ℚ → ℚ)
    {offset : Systime}
    {thread : Local}
    {memory other : Memory}
    {input : Input}
    (mustStop : Bool)
    (nonZero : input.now ≠ 0)
    (otherNonZero : input.now + offset ≠ 0)
    (paired : Paired offset thread memory other) :
    (next round (input.shift offset) mustStop thread other).1 =
        (next round input mustStop thread memory).1 ∧
      Paired offset (next round input mustStop thread memory).1
        (next round input mustStop thread memory).2
        (next round (input.shift offset) mustStop thread other).2 := by
  obtain ⟨same, set⟩ := paired
  have notStamped {stableTime : Systime} :
      false = true → stableTime ≠ 0 :=
    fun stamped => absurd stamped Bool.false_ne_true
  obtain ⟨pc, speed⟩ := thread
  cases pc with
  | testMustStop =>
      cases mustStop with
      | true => exact ⟨rfl, same, notStamped⟩
      | false => exact ⟨rfl, same, notStamped⟩
  | testStableTime =>
      refine ⟨rfl, same.initStableTime nonZero otherNonZero, fun _ => ?_⟩
      simp only [next, initStableTime]
      split
      · exact nonZero
      · rename_i already
        exact already
  | compute =>
      obtain ⟨speeds, computed⟩ := same.computeSpeed input.distMm
      exact ⟨congrArg (Local.mk .setRight) speeds.symm, computed,
        fun _ => set rfl⟩
  | setRight => exact ⟨rfl, same, fun _ => set rfl⟩
  | setLeft => exact ⟨rfl, same, fun _ => set rfl⟩
  | testSpeed =>
      have tests := same.stableFor_eq (set rfl) input.now
      simp only [next, Input.shift, ← tests]
      split
      · split
        · exact ⟨rfl, same, notStamped⟩
        · exact ⟨rfl, same, notStamped⟩
      · exact ⟨rfl, same.renew nonZero otherNonZero, notStamped⟩
  | _ => exact ⟨rfl, same, notStamped⟩

/-- Two systems whose newest workers are paired, with the same flags. -/
def PairedAt
    (offset : Systime)
    (index otherIndex : Nat)
    (state other : WorkerProgram.State (program round)) : Prop :=
  state.flags = other.flags ∧
    ∃ thread,
      state.workers[index]? = some thread ∧
        other.workers[otherIndex]? = some thread ∧
        Paired offset thread state.statics other.statics

/-- Step lemma: the two workers step together and stay paired. -/
theorem pairedAt_step
    {offset : Systime}
    {index otherIndex : Nat}
    {state other : WorkerProgram.State (program round)}
    {input : Input}
    (paired : PairedAt offset index otherIndex state other)
    (nonZero : input.now ≠ 0 ∧ input.now + offset ≠ 0) :
    (step? state (stepOf index input) = none ∧
        step? other (stepOf otherIndex (input.shift offset)) = none) ∨
      ∃ next otherNext,
        step? state (stepOf index input) = some next ∧
          step? other (stepOf otherIndex (input.shift offset)) =
            some otherNext ∧
          PairedAt offset index otherIndex next otherNext := by
  obtain ⟨flags, thread, found, otherFound, memories⟩ := paired
  cases gone : (stage thread.pc).hasExited with
  | true =>
      have exited : ((program round).stage thread).hasExited = true := gone
      left
      simp [step?, stepOf, found, otherFound, exited]
  | false =>
      have alive : ((program round).stage thread).hasExited = false := gone
      refine .inr ⟨workerStep state index thread input,
        workerStep other otherIndex thread (input.shift offset), ?_, ?_, ?_⟩
      · simp [step?, stepOf, found, alive]
      · simp [step?, stepOf, otherFound, alive]
      · obtain ⟨sameThread, pairedNext⟩ :=
          paired_next round state.flags.mustStop nonZero.1 nonZero.2 memories
        refine ⟨congrArg (store · thread.pc) flags,
          (next round input state.flags.mustStop thread state.statics).1,
          getElem?_workerStep_self found, ?_, ?_⟩
        · refine (getElem?_workerStep_self otherFound).trans ?_
          rw [← sameThread, flags]
          rfl
        · change Paired offset _ _
            (next round (input.shift offset) other.flags.mustStop thread
              other.statics).2
          rw [← flags]
          exact pairedNext

/-- A pursuit has been started from an idle state. -/
def begun
    (before : WorkerProgram.State (program round)) :
    WorkerProgram.State (program round) :=
  { before with
    flags := ⟨true, false, false⟩
    workers := before.workers ++ [(program round).entry] }

/-- `pid_distance_start` takes its four statements. -/
theorem run?_begun
    {before : WorkerProgram.State (program round)}
    (idle : before.call = none)
    (free : before.flags.thdExist = false) :
    run? step? before (.start :: List.replicate 4 .caller) =
      some (begun before) := by
  obtain ⟨⟨thdExist, mustStop, done⟩, statics, call, workers⟩ := before
  cases idle
  cases free
  rfl

/-- What a pursuit issues from its first statement on. -/
theorem pursuitTrace_eq
    {before : WorkerProgram.State (program round)}
    (idle : before.call = none)
    (free : before.flags.thdExist = false)
    (inputs : List Input) :
    pursuitTrace before inputs =
      trace step? emit (begun before)
        (inputs.map (stepOf before.workers.length)) := by
  have quiet :
      trace step? emit before (.start :: List.replicate 4 .caller) = [] :=
    trace_eq_nil (by simp [emit]) before
  rw [pursuitTrace, pursuit, trace_append (run?_begun idle free), quiet,
    List.nil_append]

/--
Two histories of pursuits that leave memories of the kind above, for starts
`offset` ticks apart: the next pursuit shows the same motor commands, and
`is_done` at the same point among them, when it receives the same distances at
the same relative times and the clock does not read 0.
-/
theorem pursuitTrace_shift
    {before other : WorkerProgram.State (program round)}
    {offset : Systime}
    {inputs : List Input}
    (reachable :
      Reachable step? (WorkerProgram.boot Memory.initial) before)
    (otherReachable :
      Reachable step? (WorkerProgram.boot Memory.initial) other)
    (idle : Idle before)
    (otherIdle : Idle other)
    (same : SameMemory offset before.statics other.statics)
    (nonZero :
      ∀ input ∈ inputs, input.now ≠ 0 ∧ input.now + offset ≠ 0) :
    pursuitTrace before inputs =
      pursuitTrace other (inputs.map (Input.shift offset)) := by
  have free :=
    (wellFormed_of_reachable reachable).thdExist_of_allExited
      idle.1 idle.2
  have otherFree :=
    (wellFormed_of_reachable otherReachable).thdExist_of_allExited
      otherIdle.1 otherIdle.2
  have paired :
      PairedAt offset before.workers.length other.workers.length
        (begun before) (begun other) :=
    ⟨rfl, entry, List.getElem?_concat_length,
      List.getElem?_concat_length, same, fun stamped => nomatch stamped⟩
  rw [pursuitTrace_eq idle.1 free, pursuitTrace_eq otherIdle.1 otherFree,
    List.map_map]
  refine trace_lockstep pairedAt_step ?_ paired nonZero
  rintro state other input ⟨-, thread, found, otherFound, -⟩ -
  simp only [stepOf, emit, found, otherFound]

/-- No pursuit has been made yet. -/
def firstPursuit : WorkerProgram.State (program id) :=
  WorkerProgram.boot Memory.initial

/-- Nobody is in a call, and no worker is registered. -/
theorem idle_firstPursuit : Idle firstPursuit :=
  ⟨rfl, fun _ member => (List.not_mem_nil member).elim⟩

/-- A system whose workers have all exited is idle between two calls. -/
theorem idle_of_stopped
    {state : WorkerProgram.State (program id)}
    (between : state.call = none)
    (stopped :
      (state.workers.all fun thread =>
        ((program id).stage thread).hasExited) = true) :
    Idle state :=
  ⟨between, List.all_eq_true.mp stopped⟩

/-- The passes of the first worker with these readings, at one time. -/
def passes
    (now : Systime)
    (readings : List UInt16) : List (WorkerProgram.Action (program id)) :=
  readings.flatMap fun distMm => List.replicate 7 (stepOf 0 ⟨now, distMm⟩)

/-- A single pursuit, started and stopped at one time. -/
def stoppedPursuit
    (now : Systime)
    (readings : List UInt16) : List (WorkerProgram.Action (program id)) :=
  .start :: List.replicate 4 .caller ++ passes now readings ++
    .stop :: List.replicate 6 (stepOf 0 ⟨now, 0⟩)

/-- What such a pursuit leaves. -/
def afterPursuit
    (now : Systime)
    (readings : List UInt16) : WorkerProgram.State (program id) :=
  (run? step? firstPursuit (stoppedPursuit now readings)).getD firstPursuit

/--
Ten passes at a mean of 100 mm fill the sum of the errors; from then on the
target is near enough for the robot to stand still.
-/
def approached : List UInt16 :=
  1000 :: List.replicate 9 0 ++ 320 :: List.replicate 9 35

/-- One pass more. -/
def approachedLonger : List UInt16 :=
  approached ++ [35]

/--
The two pursuits leave different windows, with sums and `stable_time` set;
the next one, ten ticks apart, moves off with the same speed after both.
-/
theorem pursuit_after_approach :
    (afterPursuit 1 approached).statics.window ≠
      (afterPursuit 11 approachedLonger).statics.window ∧
    (afterPursuit 1 approached).statics.pid = ⟨500, 50⟩ ∧
    (afterPursuit 1 approached).statics.stableTime = 1 ∧
    .command (rightMotorSetSpeed 2568) ∈
      pursuitTrace (afterPursuit 1 approached)
        (List.replicate 7 ⟨20, 1035⟩) ∧
    pursuitTrace (afterPursuit 1 approached)
        (List.replicate 7 ⟨20, 1035⟩) =
      pursuitTrace (afterPursuit 11 approachedLonger)
        ((List.replicate 7 ⟨20, 1035⟩).map (Input.shift 10)) := by
  have ran :
      run? step? firstPursuit (stoppedPursuit 1 approached) =
        some (afterPursuit 1 approached) :=
    run?_eq_some_getD (by decide +kernel)
  have otherRan :
      run? step? firstPursuit (stoppedPursuit 11 approachedLonger) =
        some (afterPursuit 11 approachedLonger) :=
    run?_eq_some_getD (by decide +kernel)
  have same :
      SameMemory 10 (afterPursuit 1 approached).statics
        (afterPursuit 11 approachedLonger).statics :=
    ⟨by decide +kernel, by unfold RingBuffer.Agree; decide +kernel,
      .inr (by decide +kernel)⟩
  exact ⟨by decide +kernel, by decide +kernel, by decide +kernel,
    by decide +kernel,
    pursuitTrace_shift ⟨_, ran⟩ ⟨_, otherRan⟩
      (idle_of_stopped (by decide +kernel) (by decide +kernel))
      (idle_of_stopped (by decide +kernel) (by decide +kernel))
      same
      (fun input member => by
        rw [List.eq_of_mem_replicate member]
        decide)⟩

/-- A pursuit makes one pass with an object at 500 mm and is stopped. -/
def onePass : List (WorkerProgram.Action (program id)) :=
  .start :: List.replicate 4 .caller ++
    List.replicate 7 (stepOf 0 ⟨1, 500⟩) ++
    .stop :: List.replicate 6 (stepOf 0 ⟨11, 500⟩)

/-- A pursuit has made one pass at 500 mm. -/
def afterOnePass : WorkerProgram.State (program id) :=
  (run? step? firstPursuit onePass).getD firstPursuit

/-- The same reading gives another speed after that pass than before it. -/
theorem earlier_sample_changes_speed :
    ¬ ∀ (round : ℚ → ℚ)
        (before other : WorkerProgram.State (program round))
        (offset : Systime)
        (inputs : List Input),
      Reachable step? (WorkerProgram.boot Memory.initial) before →
      Reachable step? (WorkerProgram.boot Memory.initial) other →
      Idle before →
      Idle other →
      (∀ input ∈ inputs, input.now ≠ 0 ∧ input.now + offset ≠ 0) →
      pursuitTrace before inputs =
        pursuitTrace other (inputs.map (Input.shift offset)) := by
  intro independent
  have ran :
      run? step? firstPursuit onePass = some afterOnePass := by
    with_unfolding_all rfl
  have idle : Idle afterOnePass :=
    idle_of_stopped (by with_unfolding_all rfl)
      (by with_unfolding_all rfl)
  have sameSpeed :=
    independent id firstPursuit afterOnePass 10
      (List.replicate 4 ⟨20, 500⟩) (.refl _) ⟨_, ran⟩
      idle_firstPursuit idle
      (fun input member => by
        rw [List.eq_of_mem_replicate member]
        decide)
  exact absurd sameSpeed (by decide +kernel)

end EPuckTavern.PidDistance
