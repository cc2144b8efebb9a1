import EPuckTavern.CameraMemory
import EPuckTavern.DoubleBuffer

namespace EPuckTavern.CameraMemory

open Transition Data

/-!
# Where the DMA writes

The image buffers are never lost and never given back twice, whatever is
called.  The DMA writes into them and nowhere else as long as they are not
allocated anew while the DMA is aimed at them; `dcmi_camera.h` asks for that.
-/

/-- What the two pointers have. -/
structure Buffers
    (memory : Store Bool Nat)
    (doubleBuffering : Bool) : Prop where
  owned : memory.Owned
  first :
    ∀ block,
      memory.pointer false = some block →
      ∃ size,
        memory.size block = some size ∧
          room doubleBuffering ≤ size ∧
          size ≤ maxBuffSize
  second :
    ∀ block,
      memory.pointer true = some block →
      doubleBuffering = true ∧ memory.size block = some (maxBuffSize / 2)

/-- Neither buffer is allocated yet. -/
theorem buffers_boot : Buffers boot.memory boot.doubleBuffering where
  owned := Store.owned_empty
  first _ impossible := by cases impossible
  second _ impossible := by cases impossible

/-- Half of the greatest size is not more than the whole. -/
theorem room_le
    (doubleBuffering : Bool) :
    room doubleBuffering ≤ maxBuffSize := by
  cases doubleBuffering <;> decide

section Refilling

variable
  {memory next : Store Bool Nat}
  {doubleBuffering : Bool}
  {outcome : Option Nat}

/-- The first buffer is allocated anew. -/
theorem Buffers.refill
    {after : Bool}
    {bytes : Nat}
    (buffers : Buffers memory doubleBuffering)
    (allocated :
      (memory.release false).allocate? false bytes outcome = some next)
    (enough : room after ≤ bytes)
    (bounded : bytes ≤ maxBuffSize)
    (single : after = false → memory.pointer true = none) :
    Buffers next after where
  owned :=
    (buffers.owned.release false).allocate?
      (memory.release_pointer_self false) allocated
  first block holds := by
    rw [Store.allocate?_pointer_self allocated] at holds
    subst holds
    exact ⟨bytes, Store.allocate?_size_self allocated, enough, bounded⟩
  second block holds := by
    have before : memory.pointer true = some block := by
      rw [← holds, Store.allocate?_pointer_of_ne allocated (by decide),
        Store.release_pointer_of_ne memory (by decide)]
    obtain ⟨-, size⟩ := buffers.second block before
    have kept := buffers.owned.release_size
      (show true ≠ false by decide) before
    have live : (memory.release false).size block ≠ none := by
      rw [kept, size]
      simp
    refine ⟨?_, ?_⟩
    · cases after with
      | true => rfl
      | false => cases before.symm.trans (single rfl)
    · rw [Store.allocate?_size_of_allocated allocated live, kept, size]

/-- `free(image_buff2)` keeps the buffers in order. -/
theorem Buffers.release_second
    (buffers : Buffers memory doubleBuffering) :
    Buffers (memory.release true) doubleBuffering where
  owned := buffers.owned.release true
  first block holds := by
    have before : memory.pointer false = some block := by
      rw [← holds, Store.release_pointer_of_ne memory (by decide)]
    obtain ⟨size, has, enough⟩ := buffers.first block before
    exact ⟨size,
      (buffers.owned.release_size (by decide) before).trans has, enough⟩
  second block holds := by simp at holds

/-- The second buffer is allocated anew. -/
theorem Buffers.refill_second
    (buffers : Buffers memory doubleBuffering)
    (double : doubleBuffering = true)
    (allocated :
      (memory.release true).allocate? true (maxBuffSize / 2) outcome =
        some next) :
    Buffers next doubleBuffering where
  owned := by
    exact (buffers.owned.release true).allocate?
      (memory.release_pointer_self true) allocated
  first block holds := by
    rw [Store.allocate?_pointer_of_ne allocated (by decide)] at holds
    obtain ⟨size, has, enough⟩ := buffers.release_second.first block holds
    have live : (memory.release true).size block ≠ none := by simp [has]
    exact ⟨size,
      (Store.allocate?_size_of_allocated allocated live).trans has, enough⟩
  second block holds := by
    rw [Store.allocate?_pointer_self allocated] at holds
    subst holds
    exact ⟨double, Store.allocate?_size_self allocated⟩

end Refilling

/-- The calls that allocate buffers anew. -/
def Action.allocates : Action → Bool
  | .start _ | .enableDoubleBuffering _ _ | .disableDoubleBuffering _ => true
  | _ => false

/-- A call that allocates buffers leaves the DMA where it is. -/
theorem step?_of_allocates
    {state next : State}
    {action : Action}
    (taken : step? state action = some next)
    (allocates : action.allocates = true)
    (buffers : Buffers state.memory state.doubleBuffering) :
    Buffers next.memory next.doubleBuffering ∧
      next.dma = state.dma ∧
      next.dcmiPrepared = state.dcmiPrepared ∧
      next.current = state.current := by
  cases action with
  | start buff1 =>
      simp only [step?, dcmiStart?, Option.map_map] at taken
      obtain ⟨memory, allocated, rfl⟩ := Option.map_eq_some_iff.mp taken
      refine
        ⟨buffers.refill allocated ?_ (Nat.le_refl _) ?_, rfl, rfl, rfl⟩
      · exact room_le state.doubleBuffering
      · intro single
        cases second : state.memory.pointer true with
        | none => rfl
        | some block =>
            cases single.symm.trans (buffers.second block second).1
  | enableDoubleBuffering buff1 buff2 =>
      obtain ⟨⟨after, code⟩, enabled, rfl⟩ :=
        Option.map_eq_some_iff.mp taken
      obtain ⟨memory, allocated, rest⟩ := Option.bind_eq_some_iff.mp enabled
      have half : Buffers memory true :=
        buffers.refill allocated (Nat.le_refl _) (by decide) (by simp)
      cases buff1 with
      | none =>
          cases rest
          exact ⟨half, rfl, rfl, rfl⟩
      | some block =>
          obtain ⟨both, again, ended⟩ := Option.map_eq_some_iff.mp rest
          cases ended
          exact ⟨half.refill_second rfl again, rfl, rfl, rfl⟩
  | disableDoubleBuffering buff1 =>
      simp only [step?, dcmiDisableDoubleBuffering?, Option.map_map] at taken
      obtain ⟨memory, allocated, rfl⟩ := Option.map_eq_some_iff.mp taken
      refine ⟨buffers.release_second.refill allocated (Nat.le_refl _)
        (Nat.le_refl _) ?_, rfl, rfl, rfl⟩
      simp
  | _ => cases allocates

/-- `dcmi_unprepare`, or the beginning of `dcmi_prepare`. -/
theorem released_cases
    {state next : State}
    (released :
      (if state.dcmiPrepared then Hal.dcmiUnprepare? state
        else some state) = some next) :
    (state.dcmiPrepared = false ∧ next = state) ∨
      (state.dcmiPrepared = true ∧ state.state = .ready ∧
        state.dma ≠ none ∧
        next = { state with dma := none, state := .stop }) := by
  cases prepared : state.dcmiPrepared with
  | false =>
      simp only [prepared, Bool.false_eq_true, if_false] at released
      cases released
      exact .inl ⟨rfl, rfl⟩
  | true =>
      simp only [prepared, if_true, Hal.dcmiUnprepare?] at released
      split at released
      · rename_i ready
        cases released
        exact .inr ⟨rfl, ready.1, ready.2, rfl⟩
      · cases released

/-- `dcmi_prepare` aims the DMA at the buffers, or leaves it released. -/
theorem prepare_cases
    {state next : State}
    (taken : step? state .prepare = some next) :
    ∃ released,
      (if state.dcmiPrepared then Hal.dcmiUnprepare? state
          else some state) = some released ∧
        ((next = released ∧
            room released.doubleBuffering <
              (po8030GetImageSize released.conf).toNat) ∨
          ∃ rxbuf0,
            released.memory.pointer false = some rxbuf0 ∧
              released.state = .stop ∧
              (po8030GetImageSize released.conf).toNat ≤
                room released.doubleBuffering ∧
              next =
                { released with
                  dcmiPrepared := true
                  hasConfig := true
                  dma :=
                    some
                      { memory0 := rxbuf0
                        memory1 := released.memory.pointer true
                        transactions :=
                          (po8030GetImageSize released.conf).toNat / 4 }
                  current := false
                  state := .ready }) := by
  obtain ⟨⟨after, code⟩, prepared, rfl⟩ := Option.map_eq_some_iff.mp taken
  obtain ⟨released, here, rest⟩ := Option.bind_eq_some_iff.mp prepared
  refine ⟨released, here, ?_⟩
  dsimp only at rest
  split at rest
  · rename_i tooLarge
    cases rest
    exact .inl ⟨rfl, tooLarge⟩
  · rename_i fits
    obtain ⟨aimed, took, ended⟩ := Option.map_eq_some_iff.mp rest
    cases ended
    simp only [Hal.dcmiPrepare?] at took
    cases first : released.memory.pointer false with
    | none =>
        simp only [first] at took
        cases took
    | some rxbuf0 =>
        simp only [first] at took
        split at took
        · rename_i checks
          cases took
          exact .inr ⟨rxbuf0, rfl, checks.2.2.1, Nat.not_lt.mp fits, rfl⟩
        · cases took

/-- The other steps only change settings and the state of the driver. -/
theorem settings_of_step?
    {state next : State}
    {action : Action}
    (taken : step? state action = some next)
    (keeps : action.allocates = false)
    (notPrepare : action ≠ .prepare)
    (notUnprepare : action ≠ .unprepare)
    (notTransferEnd : action ≠ .transferEnd) :
    ∃ conf captureMode driver,
      next =
        { state with
          conf := conf
          captureMode := captureMode
          state := driver } := by
  cases action with
  | start | enableDoubleBuffering | disableDoubleBuffering => cases keeps
  | prepare => exact (notPrepare rfl).elim
  | unprepare => exact (notUnprepare rfl).elim
  | transferEnd => exact (notTransferEnd rfl).elim
  | advancedConfig window written =>
      cases taken
      exact ⟨_, _, _, rfl⟩
  | config fmt size configured =>
      cases taken
      exact ⟨_, _, _, rfl⟩
  | setCaptureMode mode =>
      cases taken
      exact ⟨_, _, _, rfl⟩
  | captureStart =>
      simp only [step?, dcmiCaptureStart?] at taken
      cases mode : state.captureMode <;>
        simp only [mode, Hal.dcmiStartOneShot?, Hal.dcmiStartStream?,
          Option.ite_none_right_eq_some, Option.some.injEq] at taken <;>
        exact ⟨_, _, _, taken.2.symm⟩
  | captureStop inTime =>
      obtain ⟨⟨after, code⟩, stopped, rfl⟩ :=
        Option.map_eq_some_iff.mp taken
      simp only [dcmiCaptureStop?] at stopped
      cases mode : state.captureMode with
      | oneShot =>
          simp only [mode] at stopped
          cases stopped
          exact ⟨_, _, _, rfl⟩
      | continuous =>
          simp only [mode, Hal.dcmiStopStream?] at stopped
          split at stopped
          · split at stopped <;> cases stopped <;> exact ⟨_, _, _, rfl⟩
          · cases stopped
  | frameEnd =>
      simp only [step?, Hal.isrCode?] at taken
      split at taken
      · split at taken
        · cases taken
          exact ⟨_, _, _, rfl⟩
        · cases taken
          exact ⟨_, _, _, rfl⟩
        all_goals
          split at taken
          · cases taken
            exact ⟨_, _, _, rfl⟩
          · cases taken
      · cases taken
  | error =>
      simp only [step?, Hal.isrErrorCode?] at taken
      split at taken
      · split at taken
        · cases taken
          exact ⟨_, _, _, rfl⟩
        · cases taken
      · cases taken

/-- The DMA is aimed at the two buffers, and its transfers fit. -/
structure Aimed (state : State) : Prop where
  prepared : state.dma ≠ none → state.dcmiPrepared = true
  aimed :
    ∀ dma,
      state.dma = some dma →
      state.memory.pointer false = some dma.memory0 ∧
        state.memory.pointer true = dma.memory1 ∧
        4 * dma.transactions ≤ room state.doubleBuffering ∧
        (dma.memory1 = none → state.current = false)

/-- The DMA is aimed at nothing yet. -/
theorem aimed_boot : Aimed boot where
  prepared impossible := (impossible rfl).elim
  aimed _ impossible := by cases impossible

/-- A DMA that is released is aimed at nothing. -/
theorem aimed_of_released
    {state : State}
    (released : state.dma = none) :
    Aimed state where
  prepared impossible := (impossible released).elim
  aimed _ impossible := by cases released.symm.trans impossible

/-- The other calls and the interrupts leave the buffers as they are. -/
theorem step?_of_keeps
    {state next : State}
    {action : Action}
    (taken : step? state action = some next)
    (keeps : action.allocates = false) :
    next.memory = state.memory ∧
      next.doubleBuffering = state.doubleBuffering ∧
      (Aimed state → Aimed next) := by
  cases action with
  | prepare =>
      obtain ⟨released, here, rest⟩ := prepare_cases taken
      have same :
          released.memory = state.memory ∧
            released.doubleBuffering = state.doubleBuffering ∧
            (Aimed state → Aimed released) := by
        rcases released_cases here with ⟨-, rfl⟩ | ⟨-, -, -, rfl⟩
        · exact ⟨rfl, rfl, id⟩
        · exact ⟨rfl, rfl, fun _ => aimed_of_released rfl⟩
      rcases rest with ⟨rfl, -⟩ | ⟨rxbuf0, first, -, fits, rfl⟩
      · exact same
      · refine ⟨same.1, same.2.1, fun _ => ⟨fun _ => rfl, fun dma aims => ?_⟩⟩
        cases aims
        exact ⟨first, rfl, Nat.le_trans (Nat.mul_div_le _ 4) fits,
          fun _ => rfl⟩
  | unprepare =>
      obtain ⟨released, here, rfl⟩ := Option.map_eq_some_iff.mp taken
      rcases released_cases here with ⟨unprepared, rfl⟩ | ⟨-, -, -, rfl⟩
      · refine ⟨rfl, rfl, fun before => aimed_of_released ?_⟩
        by_contra aims
        cases unprepared.symm.trans (before.prepared aims)
      · exact ⟨rfl, rfl, fun _ => aimed_of_released rfl⟩
  | transferEnd =>
      simp only [step?] at taken
      split at taken
      · cases taken
      · rename_i dma here
        split at taken
        · cases taken
          refine ⟨rfl, rfl, fun before =>
            ⟨before.prepared, fun other aims => ?_⟩⟩
          obtain ⟨first, second, fits, -⟩ := before.aimed other aims
          cases here.symm.trans aims
          exact ⟨first, second, fits, fun single => by simp [single]⟩
        · cases taken
  | _ =>
      obtain ⟨conf, captureMode, driver, rfl⟩ :=
        settings_of_step? taken keeps (by simp) (by simp) (by simp)
      exact ⟨rfl, rfl, fun before => ⟨before.prepared, before.aimed⟩⟩

/-- Step lemma: the buffers are kept, whatever is called. -/
theorem buffers_step
    {state next : State}
    {action : Action}
    (buffers : Buffers state.memory state.doubleBuffering)
    (taken : step? state action = some next) :
    Buffers next.memory next.doubleBuffering := by
  cases allocates : action.allocates with
  | true => exact (step?_of_allocates taken allocates buffers).1
  | false =>
      obtain ⟨memory, doubleBuffering, -⟩ := step?_of_keeps taken allocates
      rw [memory, doubleBuffering]
      exact buffers

/--
No leak: in every run, each block that is allocated is in exactly one of the
two pointers, no pointer has a block that has been given back, and no block is
larger than `MAX_BUFF_SIZE`.
-/
theorem blocks_are_buffers
    {actions : List Action}
    {final : State}
    (ran : run? step? boot actions = some final) :
    final.memory.Owned ∧
      ∀ block size,
        final.memory.size block = some size → size ≤ maxBuffSize := by
  have buffers : Buffers final.memory final.doubleBuffering :=
    @run?_invariant _ _ step?
      (fun state => Buffers state.memory state.doubleBuffering)
      buffers_step boot final actions buffers_boot ran
  refine ⟨buffers.owned, fun block size has => ?_⟩
  obtain ⟨slot, holds⟩ := buffers.owned.held block (by simp [has])
  cases slot with
  | false =>
      obtain ⟨bytes, same, -, bounded⟩ := buffers.first block holds
      cases has.symm.trans same
      exact bounded
  | true =>
      obtain ⟨-, half⟩ := buffers.second block holds
      cases has.symm.trans half
      decide

/-- Buffers are allocated anew only while the camera is not prepared. -/
def AllocatesUnprepared (state : State) (action : Action) : Prop :=
  action.allocates = true → state.dcmiPrepared = false

instance decidableAllocatesUnprepared
    (state : State)
    (action : Action) :
    Decidable (AllocatesUnprepared state action) :=
  inferInstanceAs (Decidable (_ → _))

/-- Step lemma: the DMA stays aimed at the buffers. -/
theorem aimed_step
    {state next : State}
    {action : Action}
    (holds : Buffers state.memory state.doubleBuffering ∧ Aimed state)
    (unprepared : AllocatesUnprepared state action)
    (taken : step? state action = some next) :
    Buffers next.memory next.doubleBuffering ∧ Aimed next := by
  obtain ⟨buffers, aimed⟩ := holds
  refine ⟨buffers_step buffers taken, ?_⟩
  cases allocates : action.allocates with
  | true =>
      obtain ⟨-, dma, -, -⟩ := step?_of_allocates taken allocates buffers
      refine aimed_of_released (dma.trans ?_)
      by_contra aims
      cases (unprepared allocates).symm.trans (aimed.prepared aims)
  | false => exact (step?_of_keeps taken allocates).2.2 aimed

/--
Along a run that allocates only while unprepared, the DMA stays aimed well.
-/
theorem aimed_of_run
    {actions : List Action}
    {final : State}
    (unprepared : Along step? AllocatesUnprepared boot actions)
    (ran : run? step? boot actions = some final) :
    Buffers final.memory final.doubleBuffering ∧ Aimed final :=
  run?_invariant_along aimed_step ⟨buffers_boot, aimed_boot⟩ unprepared ran

/-- A block is allocated, and there is room for a number of bytes in it. -/
def HasRoom (state : State) (block bytes : Nat) : Prop :=
  ∃ size, state.memory.size block = some size ∧ bytes ≤ size

/-- The targets of an aimed DMA are buffers that its transfers fit in. -/
theorem room_of_aimed
    {state : State}
    {dma : Dma}
    (buffers : Buffers state.memory state.doubleBuffering)
    (aimed : Aimed state)
    (aims : state.dma = some dma) :
    HasRoom state dma.memory0 (4 * dma.transactions) ∧
      ∀ second,
        dma.memory1 = some second →
        HasRoom state second (4 * dma.transactions) ∧
          second ≠ dma.memory0 := by
  obtain ⟨first, both, fits, -⟩ := aimed.aimed dma aims
  obtain ⟨size, has, enough, -⟩ := buffers.first dma.memory0 first
  refine ⟨⟨size, has, Nat.le_trans fits enough⟩, fun second here => ?_⟩
  rw [here] at both
  obtain ⟨double, hasSecond⟩ := buffers.second second both
  refine
    ⟨⟨_, hasSecond, Nat.le_trans fits (by simp [double, room])⟩, ?_⟩
  rintro rfl
  cases buffers.owned.apart true false dma.memory0 both first

/--
Wherever buffers are allocated anew only while the camera is not prepared, the
DMA writes into memory that is allocated, and not beyond its end; its two
targets are different.
-/
theorem dma_within_buffers
    {actions : List Action}
    {final : State}
    {dma : Dma}
    (unprepared : Along step? AllocatesUnprepared boot actions)
    (ran : run? step? boot actions = some final)
    (aims : final.dma = some dma) :
    HasRoom final dma.memory0 (4 * dma.transactions) ∧
      ∀ second,
        dma.memory1 = some second →
        HasRoom final second (4 * dma.transactions) ∧
          second ≠ dma.memory0 := by
  obtain ⟨buffers, aimed⟩ := aimed_of_run unprepared ran
  exact room_of_aimed buffers aimed aims

/-- The buffer that the DMA fills. -/
def Dma.target (dma : Dma) (current : Bool) : Nat :=
  if current then dma.memory1.getD dma.memory0 else dma.memory0

/--
With two buffers, and under the same condition, `dcmi_get_last_image_ptr`
gives the buffer that the DMA does not fill.
-/
theorem last_image_not_filled
    {actions : List Action}
    {final : State}
    {dma : Dma}
    (unprepared : Along step? AllocatesUnprepared boot actions)
    (ran : run? step? boot actions = some final)
    (aims : final.dma = some dma)
    (double : dma.memory1 ≠ none) :
    ∃ block,
      dcmiGetLastImagePtr final = some block ∧
        HasRoom final block (4 * dma.transactions) ∧
        block ≠ dma.target final.current := by
  obtain ⟨buffers, aimed⟩ := aimed_of_run unprepared ran
  obtain ⟨first, both, -, -⟩ := aimed.aimed dma aims
  obtain ⟨second, here⟩ := Option.ne_none_iff_exists'.mp double
  obtain ⟨hasFirst, others⟩ := room_of_aimed buffers aimed aims
  obtain ⟨hasSecond, different⟩ := others second here
  rw [here] at both
  obtain ⟨on, -⟩ := buffers.second second both
  cases filling : final.current with
  | true =>
      exact ⟨dma.memory0, by simp [dcmiGetLastImagePtr, on, filling, first],
        hasFirst, by simpa [Dma.target, here] using different.symm⟩
  | false =>
      exact ⟨second, by simp [dcmiGetLastImagePtr, on, filling, both],
        hasSecond, by simpa [Dma.target] using different⟩

/-- The calls of the robot, up to the end of its first image. -/
def robotStart : List Action :=
  [.start (some 0),
    .advancedConfig ⟨.ycbycr, 240, 180, 160, 120, .x1, .x1⟩ .all,
    .advancedConfig ⟨.rgb565, 0, 10, 640, 2, .x1, .x1⟩ .all,
    .enableDoubleBuffering (some 0) (some 1),
    .setCaptureMode .oneShot,
    .prepare,
    .captureStart,
    .transferEnd,
    .frameEnd]

/-- The state after the robot's own start. -/
def started : State :=
  (run? step? boot robotStart).getD boot

/-- The transfers are those of the model of the two buffers. -/
def startedDma : Dma :=
  ⟨0, some 1, DoubleBuffer.wordsOfFrame⟩

theorem blocks_are_buffers_robotStart :
    started.memory.Owned ∧
      ∀ block size,
        started.memory.size block = some size → size ≤ maxBuffSize :=
  blocks_are_buffers (run?_eq_some_getD rfl)

theorem dma_within_buffers_robotStart :
    HasRoom started 0 (4 * DoubleBuffer.wordsOfFrame) ∧
      ∀ second,
        some 1 = some second →
        HasRoom started second (4 * DoubleBuffer.wordsOfFrame) ∧
          second ≠ 0 :=
  @dma_within_buffers robotStart started startedDma
    (by decide) (run?_eq_some_getD rfl) rfl

/-- Without the condition the DMA can be left on a block that is gone. -/
example :
    ((run? step? boot
          (robotStart ++ [.enableDoubleBuffering (some 2) (some 3)])).map
        fun state => (state.dma, state.memory.size 0)) =
      some (some startedDma, none) :=
  rfl

theorem last_image_not_filled_robotStart :
    ∃ block,
      dcmiGetLastImagePtr started = some block ∧
        HasRoom started block (4 * DoubleBuffer.wordsOfFrame) ∧
        block ≠ startedDma.target started.current :=
  @last_image_not_filled robotStart started startedDma
    (by decide) (run?_eq_some_getD rfl) rfl (by simp [startedDma])

end EPuckTavern.CameraMemory
