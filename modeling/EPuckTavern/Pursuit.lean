import EPuckTavern.WorkerRegister

namespace EPuckTavern.PidDistance

open Transition

/-!
# When a victory is earned

Pursuits follow one another; the clock never goes back.  A ledger beside the
system notes when the current pursuit was created, what it has read and which
speeds it has computed at what times, and what the pursuits before it have
read.  A victory is earned when the ledger bears it out.

`stable_time` is a function static, so a pursuit can start on the value that
an earlier one has left.  That value is what decides: as soon as it is from
the pursuit itself, every victory is earned.
-/

/-- A distance that a pursuit has read, when, and the speed from it. -/
structure SpeedRecord where
  time : Systime
  distMm : UInt16
  speed : Int
  deriving Repr, DecidableEq

/-- The ledger after a statement: a computed speed is noted. -/
def Local.noted
    (round : ℚ → ℚ)
    (input : Input)
    (thread : Local)
    (memory : Memory)
    (speeds : List SpeedRecord) : List SpeedRecord :=
  match thread.pc with
  | .compute =>
      ⟨input.now, input.distMm,
        (computeSpeed round input.distMm memory).1⟩ :: speeds
  | _ => speeds

/-- The caller and its workers, with the clock and the ledger. -/
structure Timed (round : ℚ → ℚ) where
  system : WorkerProgram.State (program round)
  /-- The last reading of the clock. -/
  clock : Systime
  /-- When the current pursuit was created. -/
  startTime : Systime
  /-- What the current pursuit has computed, the last one first. -/
  speeds : List SpeedRecord
  /-- What the pursuits before it have read, the first one first. -/
  earlier : List UInt16

/-- Who takes a step; a worker reads a distance when it asks for one. -/
inductive Actor where
  | start
  | caller
  | stop
  | worker (index : Nat) (distMm : UInt16)
  deriving Repr, DecidableEq

/-- The step of an actor at a reading of the clock. -/
def Actor.action
    {round : ℚ → ℚ}
    (now : Systime) : Actor → WorkerProgram.Action (program round)
  | .start => .start
  | .caller => .caller
  | .stop => .stop
  | .worker index distMm => .worker index ⟨now, distMm⟩

/-- A step and the reading of the clock at which it is taken. -/
structure TimedActor where
  now : Systime
  actor : Actor
  deriving Repr, DecidableEq

namespace Timed

variable {round : ℚ → ℚ}

/-- Nothing has been started, and every static is 0. -/
def boot (round : ℚ → ℚ) : Timed round where
  system := WorkerProgram.boot Memory.initial
  clock := 0
  startTime := 0
  speeds := []
  earlier := []

/-- A worker is at a given statement. -/
def At
    (state : Timed round)
    (index : Nat)
    (pc : Pc)
    (speed : Int) : Prop :=
  state.system.workers[index]? = some ⟨pc, speed⟩

/-- What the ledger notes of a step: a creation opens it anew. -/
def startAfter (state : Timed round) (timed : TimedActor) : Systime :=
  if timed.actor = .caller ∧ state.system.call = some [] then
    timed.now
  else
    state.startTime

/-- What the ledger notes of a step: a speed that has been computed. -/
def speedsAfter
    (state : Timed round)
    (timed : TimedActor) : List SpeedRecord :=
  match timed.actor with
  | .caller =>
      if state.system.call = some [] then [] else state.speeds
  | .worker index distMm =>
      match state.system.workers[index]? with
      | some thread =>
          Local.noted round ⟨timed.now, distMm⟩ thread
            state.system.statics state.speeds
      | none => state.speeds
  | _ => state.speeds

/-- What the current pursuit has read, the first one first. -/
def readings (state : Timed round) : List UInt16 :=
  (state.speeds.map SpeedRecord.distMm).reverse

/-- What the ledger notes of a step: a creation closes a pursuit. -/
def earlierAfter
    (state : Timed round)
    (timed : TimedActor) : List UInt16 :=
  if timed.actor = .caller ∧ state.system.call = some [] then
    state.earlier ++ state.readings
  else
    state.earlier

/-- One step at a reading of the clock, which never goes back. -/
def step? : Step (Timed round) TimedActor
  | state, timed =>
      if timed.now < state.clock then
        none
      else
        match WorkerProgram.step? state.system
            (timed.actor.action timed.now) with
        | none => none
        | some system =>
            some {
              system := system
              clock := timed.now
              startTime := state.startAfter timed
              speeds := state.speedsAfter timed
              earlier := state.earlierAfter timed
            }

/-- A step happens at a time that is not before the last one. -/
theorem step?_some
    {state next : Timed round}
    {timed : TimedActor}
    (taken : step? state timed = some next) :
    state.clock ≤ timed.now ∧
      ∃ system,
        WorkerProgram.step? state.system
            (timed.actor.action timed.now) = some system ∧
          next = {
            system := system
            clock := timed.now
            startTime := state.startAfter timed
            speeds := state.speedsAfter timed
            earlier := state.earlierAfter timed
          } := by
  simp only [step?] at taken
  split at taken
  · cases taken
  · rename_i ordered
    split at taken
    · cases taken
    · rename_i system stepped
      cases taken
      exact ⟨UInt32.not_lt.mp ordered, system, stepped, rfl⟩

/-- A worker has been created, and the ledger opened anew. -/
def afterCreate (state : Timed round) (now : Systime) : Timed round where
  system := { state.system with
    call := none
    workers := state.system.workers ++ [(program round).entry] }
  clock := now
  startTime := now
  speeds := []
  earlier := state.earlier ++ state.readings

/-- A worker has taken a statement, and the ledger noted its speed. -/
def afterWorker
    (state : Timed round)
    (index : Nat)
    (thread : Local)
    (input : Input) : Timed round where
  system := WorkerProgram.workerStep state.system index thread input
  clock := input.now
  startTime := state.startTime
  speeds := thread.noted round input state.system.statics state.speeds
  earlier := state.earlier

/--
Every timed step, by what it does to the ledger: nothing, or it creates a
worker, or a worker takes a statement.
-/
theorem step?_cases
    {state next : Timed round}
    {timed : TimedActor}
    (taken : step? state timed = some next) :
    state.clock ≤ timed.now ∧
      (∃ action,
        WorkerProgram.step? state.system action = some next.system) ∧
      ((∃ system,
          next = { state with system := system, clock := timed.now } ∧
            system.statics = state.system.statics ∧
            system.workers = state.system.workers) ∨
        (state.system.call = some [] ∧
          next = state.afterCreate timed.now) ∨
        ∃ index distMm thread,
          timed.actor = .worker index distMm ∧
            state.system.workers[index]? = some thread ∧
            (stage thread.pc).hasExited = false ∧
            next = state.afterWorker index thread ⟨timed.now, distMm⟩) := by
  obtain ⟨ordered, system, stepped, rfl⟩ := step?_some taken
  refine ⟨ordered, ⟨_, stepped⟩, ?_⟩
  obtain ⟨now, actor⟩ := timed
  rcases WorkerProgram.step?_cases stepped with
    ⟨isStart, -, -, rfl⟩ |
    ⟨isStart, -, -, rfl⟩ |
    ⟨store, rest, isCaller, calling, rfl⟩ |
    ⟨isCaller, calling, rfl⟩ |
    ⟨isStop, -, rfl⟩ |
    ⟨index, input, thread, isWorker, current, alive, rfl⟩
  · cases actor with
    | start => exact .inl ⟨_, rfl, rfl, rfl⟩
    | _ => cases isStart
  · cases actor with
    | start => exact .inl ⟨_, rfl, rfl, rfl⟩
    | _ => cases isStart
  · cases actor with
    | caller =>
        simp only [startAfter, speedsAfter, earlierAfter, calling]
        exact .inl ⟨_, rfl, rfl, rfl⟩
    | _ => cases isCaller
  · cases actor with
    | caller =>
        simp only [startAfter, speedsAfter, earlierAfter, calling]
        exact .inr (.inl ⟨trivial, rfl⟩)
    | _ => cases isCaller
  · cases actor with
    | stop => exact .inl ⟨_, rfl, rfl, rfl⟩
    | _ => cases isStop
  · cases actor with
    | worker other distMm =>
        cases isWorker
        simp only [startAfter, speedsAfter, earlierAfter, current]
        exact .inr (.inr ⟨_, _, thread, rfl, current, alive, rfl⟩)
    | _ => cases isWorker

/-- The step stores `is_done = true`. -/
def SetsDone (state : Timed round) (timed : TimedActor) : Prop :=
  ∃ index distMm speed,
    timed.actor = .worker index distMm ∧ state.At index .setDone speed

/-- `S2ST(STABLE_DURATION)` as a number of ticks. -/
def stableTicks : Nat :=
  (s2st stableDuration).toNat

/--
The pursuit has been running for more than `STABLE_DURATION`, and every speed
it has computed within the last `STABLE_DURATION` was 0.
-/
def Earned (state : Timed round) (now : Systime) : Prop :=
  state.startTime.toNat + stableTicks < now.toNat ∧
    ∀ record ∈ state.speeds,
      now.toNat ≤ record.time.toNat + stableTicks →
      record.speed = 0

/-- Whenever the step declares a victory, the victory is earned. -/
def VictoryEarned (state : Timed round) (timed : TimedActor) : Prop :=
  state.SetsDone timed → state.Earned timed.now

/--
`stable_time` is from before the pursuit, which has not yet been running for
more than `STABLE_DURATION`.
-/
def Inherited (state : Timed round) (now : Systime) : Prop :=
  state.system.statics.stableTime < state.startTime ∧
    now.toNat ≤ state.startTime.toNat + stableTicks

end Timed

section Judging

/-!
## What the ledger says at each statement
-/

/--
Every speed that was not 0 was computed before `stable_time`, which is then
from the pursuit itself.
-/
def Settled
    (startTime stableTime : Systime)
    (speeds : List SpeedRecord) : Prop :=
  ∀ record ∈ speeds,
    record.speed ≠ 0 →
    startTime ≤ stableTime ∧ record.time ≤ stableTime

/-- What holds in front of a statement of the pursuit. -/
def Judged
    (startTime stableTime clock : Systime)
    (speeds : List SpeedRecord)
    (thread : Local) : Prop :=
  match thread.pc with
  | .setRight | .setLeft | .testSpeed =>
      -- A speed that is not 0 waits for `stable_time` to be renewed.
      thread.speed ≠ 0 ∨ Settled startTime stableTime speeds
  | .setDone =>
      Settled startTime stableTime speeds ∧
        stableTime.toNat + Timed.stableTicks < clock.toNat
  | _ => Settled startTime stableTime speeds

/-- A later `stable_time` of the pursuit settles what came before it. -/
theorem settled_of_le
    {startTime stableTime clock : Systime}
    {speeds : List SpeedRecord}
    (started : startTime ≤ clock)
    (past : ∀ record ∈ speeds, record.time ≤ clock)
    (renewed : clock ≤ stableTime) :
    Settled startTime stableTime speeds :=
  fun record member _ =>
    ⟨UInt32.le_trans started renewed,
      UInt32.le_trans (past record member) renewed⟩

/-- The first call of a pursuit stamps its own start. -/
theorem Settled.init
    {startTime now : Systime}
    {memory : Memory}
    {speeds : List SpeedRecord}
    (settled : Settled startTime memory.stableTime speeds) :
    Settled startTime (initStableTime now memory).stableTime speeds := by
  simp only [initStableTime]
  split
  · rename_i unset
    intro record member moving
    obtain ⟨started, past⟩ := settled record member moving
    rw [unset] at started past
    exact ⟨UInt32.le_trans started (UInt32.zero_le),
      UInt32.le_trans past (UInt32.zero_le)⟩
  · exact settled

/-- With dates in order, stable for long enough is more than three seconds. -/
theorem ticks_lt_of_stableFor
    {now stableTime : Systime}
    (ordered : stableTime ≤ now)
    (stable : stableFor now stableTime = true) :
    stableTime.toNat + Timed.stableTicks < now.toNat :=
  (lt_elapsed_iff ordered _).mp (of_decide_eq_true stable)

/-- What holds in front of a statement still holds at a later time. -/
theorem Judged.later
    {startTime stableTime clock now : Systime}
    {speeds : List SpeedRecord}
    {thread : Local}
    (judged : Judged startTime stableTime clock speeds thread)
    (ordered : clock ≤ now) :
    Judged startTime stableTime now speeds thread := by
  obtain ⟨pc, speed⟩ := thread
  cases pc with
  | setDone =>
      exact ⟨judged.1, judged.2.trans_le (UInt32.le_iff_toNat_le.mp ordered)⟩
  | _ => exact judged

/-- Step lemma of the thread: every statement keeps the ledger judged. -/
theorem judged_next
    {round : ℚ → ℚ}
    {startTime clock : Systime}
    {speeds : List SpeedRecord}
    {thread : Local}
    {memory : Memory}
    {input : Input}
    (mustStop : Bool)
    (started : startTime ≤ clock)
    (past : ∀ record ∈ speeds, record.time ≤ clock)
    (stamped : memory.stableTime ≤ clock)
    (ordered : clock ≤ input.now)
    (judged : Judged startTime memory.stableTime clock speeds thread) :
    Judged startTime
      (next round input mustStop thread memory).2.stableTime
      input.now
      (thread.noted round input memory speeds)
      (next round input mustStop thread memory).1 := by
  obtain ⟨pc, speed⟩ := thread
  cases pc with
  | testMustStop =>
      cases mustStop <;> exact judged
  | testStableTime =>
      exact Settled.init judged
  | compute =>
      by_cases still : (computeSpeed round input.distMm memory).1 = 0
      · refine .inr fun record member moving => ?_
        rcases List.mem_cons.mp member with rfl | earlier
        · exact (moving still).elim
        · exact judged record earlier moving
      · exact .inl still
  | testSpeed =>
      by_cases still : speed = 0
      · have settled := judged.resolve_left (not_not_intro still)
        cases stable : stableFor input.now memory.stableTime with
        | true =>
            simp only [next, still, ↓reduceIte, stable]
            exact ⟨settled, ticks_lt_of_stableFor
              (UInt32.le_trans stamped ordered) stable⟩
        | false =>
            simp only [next, still, ↓reduceIte, stable,
              Bool.false_eq_true]
            exact settled
      · simp only [next, still, ↓reduceIte]
        exact settled_of_le started past ordered
  | setDone =>
      exact judged.1
  | _ => exact judged

end Judging

namespace Timed

open WorkerProgram

variable {round : ℚ → ℚ}

/-- System, clock and ledger fit together. -/
structure Consistent (state : Timed round) : Prop where
  wellFormed : WellFormed state.system
  started : state.startTime ≤ state.clock
  past : ∀ record ∈ state.speeds, record.time ≤ state.clock
  stamped : state.system.statics.stableTime ≤ state.clock
  judged :
    ∀ {index thread},
      RegisteredAt state.system index thread →
      Judged state.startTime state.system.statics.stableTime
        state.clock state.speeds thread

theorem consistent_boot
    (round : ℚ → ℚ) :
    Consistent (boot round) where
  wellFormed := @WellFormed.boot (program round) Memory.initial
  started := UInt32.le_refl 0
  past record member := (List.not_mem_nil member).elim
  stamped := UInt32.le_refl 0
  judged registered := by
    simp [RegisteredAt, boot, WorkerProgram.boot] at registered

theorem Consistent.pass
    {state : Timed round}
    {system : WorkerProgram.State (program round)}
    {now : Systime}
    (consistent : Consistent state)
    (ordered : state.clock ≤ now)
    (wellFormed : WellFormed system)
    (sameStatics : system.statics = state.system.statics)
    (sameWorkers : system.workers = state.system.workers) :
    Consistent { state with system := system, clock := now } where
  wellFormed := wellFormed
  started := UInt32.le_trans consistent.started ordered
  past record member :=
    UInt32.le_trans (consistent.past record member) ordered
  stamped := by
    rw [sameStatics]
    exact UInt32.le_trans consistent.stamped ordered
  judged registered := by
    rw [RegisteredAt, sameWorkers] at registered
    rw [sameStatics]
    exact (consistent.judged registered).later ordered

/-- A creation opens the ledger anew, whatever `stable_time` is. -/
theorem Consistent.create
    {state : Timed round}
    {now : Systime}
    (consistent : Consistent state)
    (ordered : state.clock ≤ now)
    (wellFormed :
      WellFormed (state.afterCreate now).system) :
    Consistent (state.afterCreate now) where
  wellFormed := wellFormed
  started := UInt32.le_refl now
  past record member := (List.not_mem_nil member).elim
  stamped := UInt32.le_trans consistent.stamped ordered
  judged {index thread} registered := by
    have isLast := (wellFormed.last registered).1
    simp only [afterCreate, List.length_append, List.length_singleton]
      at isLast
    obtain ⟨found, -⟩ := registered
    rw [Nat.succ_injective isLast, afterCreate,
      List.getElem?_concat_length] at found
    cases found
    exact fun record member => (List.not_mem_nil member).elim

/-- A thread that has given up its registration stores nothing any more. -/
theorem next_of_unregistered
    (round : ℚ → ℚ)
    {thread : Local}
    (gone : (stage thread.pc).registered = false)
    (input : Input)
    (mustStop : Bool)
    (memory : Memory)
    (speeds : List SpeedRecord) :
    (next round input mustStop thread memory).2 = memory ∧
      thread.noted round input memory speeds = speeds := by
  obtain ⟨pc, speed⟩ := thread
  cases pc with
  | exitStopped | exitDone | exited exit => exact ⟨rfl, rfl⟩
  | _ => cases gone

/-- `stable_time` is a date of the past. -/
theorem stableTime_next_le
    {input : Input}
    {memory : Memory}
    (stamped : memory.stableTime ≤ input.now)
    (mustStop : Bool)
    (thread : Local) :
    (next round input mustStop thread memory).2.stableTime ≤
      input.now := by
  obtain ⟨pc, speed⟩ := thread
  cases pc with
  | testMustStop => cases mustStop <;> exact stamped
  | testStableTime =>
      simp only [next, initStableTime]
      split
      · exact UInt32.le_refl _
      · exact stamped
  | testSpeed =>
      simp only [next]
      split
      · split <;> exact stamped
      · exact UInt32.le_refl _
  | _ => exact stamped

/-- The records are of the past. -/
theorem noted_past
    {input : Input}
    {speeds : List SpeedRecord}
    (past : ∀ record ∈ speeds, record.time ≤ input.now)
    (thread : Local)
    (memory : Memory) :
    ∀ record ∈ thread.noted round input memory speeds,
      record.time ≤ input.now := by
  intro record member
  simp only [Local.noted] at member
  split at member
  · rcases List.mem_cons.mp member with rfl | earlier
    · exact UInt32.le_refl _
    · exact past record earlier
  · exact past record member

/-- A step of a worker keeps the statics and the records consistent. -/
theorem Consistent.workerStep
    {state : Timed round}
    {index : Nat}
    {thread : Local}
    {input : Input}
    (consistent : Consistent state)
    (ordered : state.clock ≤ input.now)
    (current : state.system.workers[index]? = some thread)
    (alive : (stage thread.pc).hasExited = false)
    (wellFormed :
      WellFormed
        (WorkerProgram.workerStep state.system index thread input)) :
    Consistent (state.afterWorker index thread input) := by
  have stamped : state.system.statics.stableTime ≤ input.now :=
    UInt32.le_trans consistent.stamped ordered
  have past : ∀ record ∈ state.speeds, record.time ≤ input.now :=
    fun record member =>
      UInt32.le_trans (consistent.past record member) ordered
  refine ⟨wellFormed, UInt32.le_trans consistent.started ordered,
    noted_past past thread _, stableTime_next_le stamped _ thread, ?_⟩
  intro other otherThread registered
  rcases registeredAt_workerStep_cases
      consistent.wellFormed current alive registered with
    ⟨before, rfl, rfl⟩ | ⟨gone, untouched⟩
  · exact judged_next _ consistent.started consistent.past
      consistent.stamped ordered
      (consistent.judged ⟨current, before⟩)
  · obtain ⟨sameMemory, sameSpeeds⟩ :=
      next_of_unregistered round gone input
        state.system.flags.mustStop state.system.statics state.speeds
    have judged :
        Judged state.startTime
          (next round input state.system.flags.mustStop thread
            state.system.statics).2.stableTime
          input.now
          (thread.noted round input state.system.statics state.speeds)
          otherThread := by
      rw [sameMemory, sameSpeeds]
      exact (consistent.judged untouched).later ordered
    exact judged

/-- Step lemma: every timed step keeps system, clock and ledger fitting. -/
theorem consistent_step
    {state next : Timed round}
    {timed : TimedActor}
    (consistent : Consistent state)
    (taken : step? state timed = some next) :
    Consistent next := by
  obtain ⟨ordered, ⟨_, stepped⟩, ended⟩ := step?_cases taken
  have wellFormed := wellFormed_step consistent.wellFormed stepped
  rcases ended with
    ⟨system, rfl, sameStatics, sameWorkers⟩ | ⟨-, rfl⟩ |
    ⟨index, distMm, thread, -, current, alive, rfl⟩
  · exact consistent.pass ordered wellFormed sameStatics sameWorkers
  · exact consistent.create ordered wellFormed
  · exact consistent.workerStep ordered current alive wellFormed

/-- A `stable_time` of the pursuit itself lets no victory be unearned. -/
theorem victoryEarned_iff_notInherited
    {state next : Timed round}
    {timed : TimedActor}
    (consistent : Consistent state)
    (taken : step? state timed = some next) :
    VictoryEarned state timed ↔
      (state.SetsDone timed → ¬ state.Inherited timed.now) := by
  have ordered := UInt32.le_iff_toNat_le.mp (step?_some taken).1
  constructor
  · rintro earned sets ⟨-, early⟩
    exact absurd (earned sets).1 (Nat.not_lt_of_le early)
  · intro notInherited sets
    have own := notInherited sets
    obtain ⟨index, distMm, speed, -, here⟩ := sets
    obtain ⟨settled, stable⟩ :
        Settled state.startTime state.system.statics.stableTime
            state.speeds ∧
          state.system.statics.stableTime.toNat + stableTicks <
            state.clock.toNat :=
      consistent.judged ⟨here, rfl⟩
    have passed := stable.trans_le ordered
    refine ⟨?_, fun record member recent => ?_⟩
    · by_cases inherited :
          state.system.statics.stableTime < state.startTime
      · exact Nat.lt_of_not_le fun early => own ⟨inherited, early⟩
      · have started :=
          UInt32.le_iff_toNat_le.mp (UInt32.not_lt.mp inherited)
        exact (Nat.add_le_add_right started _).trans_lt passed
    · by_contra moving
      have past :=
        UInt32.le_iff_toNat_le.mp (settled record member moving).2
      exact absurd
        ((Nat.add_le_add_right past _).trans_lt passed)
        (Nat.not_lt_of_le recent)

end Timed

end EPuckTavern.PidDistance
