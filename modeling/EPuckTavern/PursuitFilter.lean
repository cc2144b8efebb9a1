import EPuckTavern.DistanceFilter

namespace EPuckTavern.PidDistance

open Transition Data

/-!
# What the filtered distance lies between

The ring of `get_mean_distance_mm` is a function static: at boot it is full of
zeros, and a pursuit starts on what the ones before it have left.  The mean
always lies between two of the last ten readings, whoever has taken them; the
readings of the pursuit alone enclose it from its tenth pass on.
-/

/-- Between the least and the greatest of these readings. -/
def Between (value : UInt16) (readings : List UInt16) : Prop :=
  (∃ low ∈ readings, low ≤ value) ∧ ∃ high ∈ readings, value ≤ high

theorem Between.mono
    {value : UInt16}
    {readings more : List UInt16}
    (between : Between value readings)
    (included : readings ⊆ more) :
    Between value more := by
  obtain ⟨⟨low, lowMember, above⟩, high, highMember, below⟩ := between
  exact ⟨⟨low, included lowMember, above⟩, high, included highMember, below⟩

/-- The last ten readings; the missing ones are 0. -/
def lastReadings (readings : List UInt16) : List UInt16 :=
  (readings.reverse ++ List.replicate nbSamples 0).take nbSamples

theorem lastReadings_length
    (readings : List UInt16) :
    (lastReadings readings).length = nbSamples := by
  rw [lastReadings, ← newest_windowAfter]
  exact RingBuffer.newest_length _

/-- Their exact sum. -/
theorem exactSum_lastReadings
    (readings : List UInt16) :
    exactSum id (lastReadings readings) = lastSum readings := by
  rw [lastReadings, ← newest_windowAfter]
  exact exactSum_newest readings

/-- The last of enough readings are all among them. -/
theorem lastReadings_subset
    {earlier readings : List UInt16}
    (enough : nbSamples ≤ readings.length) :
    lastReadings (earlier ++ readings) ⊆ readings := by
  rw [lastReadings, List.reverse_append, List.append_assoc,
    List.take_append_of_le_length (by rwa [List.length_reverse])]
  exact fun reading member =>
    List.mem_reverse.mp (List.mem_of_mem_take member)

/-- The largest readings whose sum fits the `uint16_t` of the filter. -/
def maxReading : UInt16 := 6553

/-- Each of them is at most 6553. -/
theorem lastReadings_le
    {readings : List UInt16}
    (inRange : ∀ reading ∈ readings, reading ≤ maxReading) :
    ∀ reading ∈ lastReadings readings, reading.toNat ≤ 6553 := by
  intro reading member
  rcases List.mem_append.mp (List.mem_of_mem_take member) with
    taken | missing
  · exact UInt16.le_iff_toNat_le.mp
      (inRange reading (List.mem_reverse.mp taken))
  · rw [List.eq_of_mem_replicate missing]
    exact Nat.zero_le _

/-- The mean of ten bounded readings is between the least and the greatest. -/
theorem between_meanAfter
    {earlier : List UInt16}
    {distMm : UInt16}
    (inRange : ∀ reading ∈ earlier ++ [distMm], reading ≤ maxReading) :
    Between (meanAfter earlier distMm)
      (lastReadings (earlier ++ [distMm])) := by
  have nonempty : lastReadings (earlier ++ [distMm]) ≠ [] :=
    List.length_pos_iff.mp (by rw [lastReadings_length]; decide)
  have fits :
      exactSum id (lastReadings (earlier ++ [distMm])) < 2 ^ 16 := by
    have sum_le := exactSum_le (lastReadings_le inRange)
    rw [lastReadings_length] at sum_le
    exact Nat.lt_of_le_of_lt sum_le (by decide)
  have mean :
      (meanAfter earlier distMm).toNat =
        exactSum id (lastReadings (earlier ++ [distMm])) /
          (lastReadings (earlier ++ [distMm])).length := by
    rw [toNat_meanAfter, ← exactSum_lastReadings, Nat.mod_eq_of_lt fits,
      lastReadings_length]
    rfl
  obtain ⟨low, lowMember, above⟩ := @exists_le_mean _ id _ nonempty
  obtain ⟨high, highMember, below⟩ := @exists_mean_le _ id _ nonempty
  rw [← mean] at above below
  exact ⟨⟨low, lowMember, UInt16.le_iff_toNat_le.mpr above⟩,
    high, highMember, UInt16.le_iff_toNat_le.mpr below⟩

/-- What the filter reads when the thread takes a step. -/
def Local.reading? (thread : Local) (input : Input) : Option UInt16 :=
  if thread.pc = .compute then some input.distMm else none

variable {round : ℚ → ℚ}

/-- Only a call of the filter moves the window. -/
theorem window_next
    (input : Input)
    (mustStop : Bool)
    (thread : Local)
    (memory : Memory) :
    (next round input mustStop thread memory).2.window =
      (thread.reading? input).toList.foldl
        (fun window distMm => (getMeanDistanceMm window distMm).2)
        memory.window := by
  obtain ⟨pc, speed⟩ := thread
  cases pc with
  | testMustStop => cases mustStop <;> rfl
  | testStableTime =>
      simp only [next, initStableTime]
      split <;> rfl
  | testSpeed =>
      simp only [next]
      split
      · split <;> rfl
      · rfl
  | _ => rfl

/-- The caller and its workers, with the readings they have taken. -/
structure Measured (round : ℚ → ℚ) where
  system : WorkerProgram.State (program round)
  /-- The readings of the pursuits before the current one. -/
  earlier : List UInt16
  /-- The readings of the current pursuit, oldest first. -/
  readings : List UInt16

namespace Measured

open WorkerProgram (Action)

/-- No distance has been read. -/
def boot (round : ℚ → ℚ) : Measured round where
  system := WorkerProgram.boot Memory.initial
  earlier := []
  readings := []

/-- The reading that is taken in a step. -/
def reading? (state : Measured round) : Action (program round) → Option UInt16
  | .worker index input =>
      (state.system.workers[index]?).bind fun thread =>
        Local.reading? thread input
  | _ => none

/-- A step notes its reading; the creation of a thread opens a pursuit. -/
def after
    (state : Measured round)
    (system : WorkerProgram.State (program round)) :
    Action (program round) → Measured round
  | .caller =>
      if state.system.call = some [] then
        ⟨system, state.earlier ++ state.readings, []⟩
      else
        { state with system := system }
  | action =>
      { state with
        system := system
        readings := state.readings ++ (state.reading? action).toList }

/-- A step of the caller or of a worker, with the distances read so far. -/
def step? : Step (Measured round) (Action (program round))
  | state, action =>
      (WorkerProgram.step? state.system action).map fun system =>
        state.after system action

/-- All readings since boot. -/
def all (state : Measured round) : List UInt16 :=
  state.earlier ++ state.readings

/-- What `get_mean_distance_mm` hands to `pid_regulator`. -/
def mean (state : Measured round) (distMm : UInt16) : UInt16 :=
  (getMeanDistanceMm state.system.statics.window distMm).1

/-- A reading that is taken is not above 6553 mm. -/
def InRange (state : Measured round) (action : Action (program round)) : Prop :=
  ∀ distMm ∈ state.reading? action, distMm ≤ maxReading

/-- The mean lies between the readings of the pursuit. -/
def WithinPursuit
    (state : Measured round)
    (action : Action (program round)) : Prop :=
  ∀ distMm ∈ state.reading? action,
    Between (state.mean distMm) (state.readings ++ [distMm])

/--
The mean lies between the last ten readings since boot, and from the tenth
reading of the pursuit on between those of the pursuit.
-/
def WithinWindow
    (state : Measured round)
    (action : Action (program round)) : Prop :=
  ∀ distMm ∈ state.reading? action,
    Between (state.mean distMm) (lastReadings (state.all ++ [distMm])) ∧
      (nbSamples ≤ (state.readings ++ [distMm]).length →
        Between (state.mean distMm) (state.readings ++ [distMm]))

/-- The window holds the readings that have been noted. -/
structure Noted (state : Measured round) : Prop where
  window : state.system.statics.window = windowAfter state.all
  inRange : ∀ reading ∈ state.all, reading ≤ maxReading

theorem noted_boot (round : ℚ → ℚ) : Noted (boot round) where
  window := rfl
  inRange _ member := (List.not_mem_nil member).elim

variable {state next : Measured round} {action : Action (program round)}

/-- A step adds the reading that it makes, if it makes one. -/
theorem step?_some
    (taken : step? state action = some next) :
    ∃ system,
      WorkerProgram.step? state.system action = some system ∧
        next.system = system ∧
        next.all = state.all ++ (state.reading? action).toList := by
  obtain ⟨system, stepped, rfl⟩ := Option.map_eq_some_iff.mp taken
  refine ⟨system, stepped, ?_⟩
  cases action with
  | caller =>
      by_cases creates : state.system.call = some []
      · simp only [after, if_pos creates]
        exact ⟨trivial, rfl⟩
      · simp only [after, if_neg creates]
        exact ⟨trivial, (List.append_nil _).symm⟩
  | _ => exact ⟨rfl, (List.append_assoc _ _ _).symm⟩

/-- A step pushes the reading that it takes. -/
theorem window_step
    {system : WorkerProgram.State (program round)}
    (stepped : WorkerProgram.step? state.system action = some system) :
    system.statics.window =
      (state.reading? action).toList.foldl
        (fun window distMm => (getMeanDistanceMm window distMm).2)
        state.system.statics.window := by
  rcases WorkerProgram.step?_cases stepped with
    ⟨rfl, -, -, rfl⟩ |
    ⟨rfl, -, -, rfl⟩ |
    ⟨store, rest, rfl, -, rfl⟩ |
    ⟨rfl, -, rfl⟩ |
    ⟨rfl, -, rfl⟩ |
    ⟨index, input, thread, rfl, current, -, rfl⟩
  · rfl
  · rfl
  · rfl
  · rfl
  · rfl
  · rw [reading?, current, Option.bind_some]
    exact window_next input _ thread _

/-- Step lemma: the window keeps what has been noted. -/
theorem noted_step
    (noted : Noted state)
    (inRange : InRange state action)
    (taken : step? state action = some next) :
    Noted next := by
  obtain ⟨system, stepped, rfl, all⟩ := step?_some taken
  constructor
  · rw [window_step stepped, noted.window, all, windowAfter, windowAfter,
      List.foldl_append]
  · intro reading member
    rw [all] at member
    rcases List.mem_append.mp member with old | new
    · exact noted.inRange reading old
    · exact inRange reading (Option.mem_toList.mp new)

/-- What the window says about the mean of the next reading. -/
theorem Noted.withinWindow
    (noted : Noted state)
    (inRange : InRange state action) :
    WithinWindow state action := by
  intro distMm taken
  have readings :
      ∀ reading ∈ state.all ++ [distMm], reading ≤ maxReading := by
    intro reading member
    rcases List.mem_append.mp member with old | new
    · exact noted.inRange reading old
    · rw [List.mem_singleton.mp new]
      exact inRange distMm taken
  have between :
      Between (state.mean distMm) (lastReadings (state.all ++ [distMm])) := by
    rw [mean, noted.window]
    exact between_meanAfter readings
  refine ⟨between, fun enough => between.mono ?_⟩
  rw [all, List.append_assoc]
  exact lastReadings_subset enough

/--
In every run of pursuits with readings of at most 6553 mm, the mean handed to
`pid_regulator` lies between the last ten readings since boot, and from the
tenth reading of a pursuit on between the readings of that pursuit.
-/
theorem along_withinWindow
    {actions : List (Action (program round))}
    (inRange : Along step? InRange (boot round) actions) :
    Along step? WithinWindow (boot round) actions :=
  inRange.consequence noted_step
    (fun noted within _ => noted.withinWindow within) (noted_boot round)

/-- Readings that are all bounded are bounded at each step. -/
theorem along_inRange
    {actions : List (Action (program round))}
    (bounded :
      ∀ index input,
        .worker index input ∈ actions → input.distMm ≤ maxReading)
    (state : Measured round) :
    Along step? InRange state actions := by
  refine along_of_forall_mem (fun action member _ _ _ => ?_) state
  intro distMm taken
  cases action with
  | worker index input =>
      obtain ⟨thread, -, reads⟩ := Option.bind_eq_some_iff.mp taken
      obtain ⟨-, value⟩ := Option.ite_none_right_eq_some.mp reads
      obtain rfl := Option.some.inj value
      exact bounded index input member
  | _ => cases taken

/-- One pursuit, with an object at 500 mm. -/
def pursuitAt500 (steps : Nat) : List (Action (program id)) :=
  .start :: List.replicate 4 .caller ++
    List.replicate steps (.worker 0 ⟨1, 500⟩)

/-- A pursuit at 500 mm reads bounded distances. -/
theorem along_inRange_pursuitAt500 (steps : Nat) :
    Along step? InRange (boot id) (pursuitAt500 steps) := by
  refine along_inRange (fun index input member => ?_) _
  rcases List.mem_append.mp member with calling | running
  · simp at calling
  · obtain ⟨-, rfl⟩ := Action.worker.inj (List.eq_of_mem_replicate running)
    decide

/-- Ten passes and more. -/
theorem along_withinWindow_pursuitAt500 :
    Along step? WithinWindow (boot id) (pursuitAt500 80) :=
  along_withinWindow (along_inRange_pursuitAt500 80)

/-- The pursuit is about to take its first reading. -/
def firstReading : Measured id :=
  (run? step? (boot id) (pursuitAt500 2)).getD (boot id)

/-- The first mean after boot is a tenth of the only reading. -/
theorem first_mean_too_small :
    ¬ ∀ round actions,
      Along step? InRange (boot round) actions →
        Along step? WithinPursuit (boot round) actions := by
  intro within
  have ran :
      run? step? (boot id) (pursuitAt500 2) = some firstReading := by
    with_unfolding_all rfl
  have enabled :
      (step? firstReading (.worker 0 ⟨1, 500⟩)).isSome := by
    with_unfolding_all rfl
  obtain ⟨next, taken⟩ := Option.isSome_iff_exists.mp enabled
  have last :=
    along_last (within id (pursuitAt500 3) (along_inRange_pursuitAt500 3))
      ran taken
  have reads : firstReading.reading? (.worker 0 ⟨1, 500⟩) = some 500 := by
    with_unfolding_all rfl
  have mean : firstReading.mean 500 = 50 := by
    with_unfolding_all rfl
  have alone : firstReading.readings ++ [500] = [500] := by
    with_unfolding_all rfl
  obtain ⟨⟨low, member, above⟩, -⟩ := last 500 reads
  rw [alone, List.mem_singleton] at member
  rw [member, mean] at above
  exact absurd above (by decide)

end Measured

end EPuckTavern.PidDistance
