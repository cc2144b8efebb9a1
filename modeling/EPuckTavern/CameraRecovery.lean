import EPuckTavern.CameraBuffers
import EPuckTavern.Transition.Waiting

namespace EPuckTavern.CameraMemory

open Transition Data

/-!
# A camera that cannot be used any more

`dcmi_prepared` and the state of the driver can fall apart: after an error, a
capture that does not stop in time, a `dcmi_prepare` that refuses the image of
a prepared camera, or a `dcmi_start` of a prepared camera.  From then on every
`dcmi_prepare`, `dcmi_unprepare` and `dcmi_capture_start` halts the system.
-/

/-- The camera passes for prepared, and its driver is in no state to be used. -/
def Broken (state : State) : Prop :=
  state.dcmiPrepared = true ∧
    (state.state = .timeout ∨ state.state = .error ∨
      state.state = .stop ∧ (state.dma = none ∨ state.hasConfig = false))

/-- The driver is in the state that `dcmi_prepared` stands for. -/
structure Intact (state : State) : Prop where
  prepared :
    state.dcmiPrepared = true →
    state.dma ≠ none ∧
      state.hasConfig = true ∧
      (state.state = .ready ∨ state.state = .activeOneshot ∨
        state.state = .activeStream)
  unprepared :
    state.dcmiPrepared = false →
    state.dma = none ∧ (state.state = .uninit ∨ state.state = .stop)

/-- The camera is not prepared, and the driver not used. -/
theorem intact_boot : Intact boot where
  prepared impossible := by cases impossible
  unprepared _ := ⟨rfl, .inl rfl⟩

/-- An intact camera is not broken. -/
theorem not_broken_of_intact
    {state : State}
    (intact : Intact state) :
    ¬ Broken state := by
  rintro ⟨prepared, broken⟩
  obtain ⟨aimed, config, active⟩ := intact.prepared prepared
  rcases broken with timeout | error | ⟨stop, released | cleared⟩
  · simp [timeout] at active
  · simp [error] at active
  · exact aimed released
  · cases config.symm.trans cleared

/-- The steps that leave a camera fit for use. -/
def Sparing (state : State) : Action → Prop
  | .start _ => state.dcmiPrepared = false
  | .prepare =>
      state.dcmiPrepared = true →
      (po8030GetImageSize state.conf).toNat ≤ room state.doubleBuffering
  | .captureStop inTime => state.captureMode = .oneShot ∨ inTime = true
  | .error => False
  | _ => True

instance decidableSparing
    (state : State) :
    ∀ action, Decidable (Sparing state action)
  | .start _ => inferInstanceAs (Decidable (_ = _))
  | .prepare => inferInstanceAs (Decidable (_ → _))
  | .captureStop _ => inferInstanceAs (Decidable (_ ∨ _))
  | .error => inferInstanceAs (Decidable False)
  | .advancedConfig _ _ | .config _ _ _ | .enableDoubleBuffering _ _
  | .disableDoubleBuffering _ | .setCaptureMode _ | .unprepare
  | .captureStart | .frameEnd | .transferEnd =>
      inferInstanceAs (Decidable True)

/-- The calls that a broken camera answers by halting the system. -/
def Action.uses : Action → Bool
  | .prepare | .unprepare | .captureStart => true
  | _ => false

/-- `dcmi_prepare`, `dcmi_unprepare` and `dcmi_capture_start` halt. -/
theorem step?_of_broken
    {state : State}
    {action : Action}
    (broken : Broken state)
    (uses : action.uses = true) :
    step? state action = none := by
  obtain ⟨prepared, driver⟩ := broken
  have notReady : state.state ≠ .ready := by
    rcases driver with here | here | ⟨here, -⟩ <;> simp [here]
  cases action with
  | prepare =>
      simp [step?, dcmiPrepare?, Hal.dcmiUnprepare?, prepared, notReady]
  | unprepare =>
      simp [step?, dcmiUnprepare?, Hal.dcmiUnprepare?, prepared, notReady]
  | captureStart =>
      cases mode : state.captureMode <;>
        simp [step?, dcmiCaptureStart?, Hal.dcmiStartOneShot?,
          Hal.dcmiStartStream?, mode, notReady]
  | _ => cases uses

/-- Settings and buffers have no part in whether a camera is broken. -/
structure SameDriver (state next : State) : Prop where
  prepared : next.dcmiPrepared = state.dcmiPrepared
  driver : next.state = state.state
  config : next.hasConfig = state.hasConfig
  dma : next.dma = state.dma

/-- A step that leaves the driver alone leaves a broken camera broken. -/
theorem SameDriver.broken
    {state next : State}
    (same : SameDriver state next)
    (broken : Broken state) :
    Broken next := by
  obtain ⟨prepared, driver⟩ := broken
  refine ⟨same.prepared.trans prepared, ?_⟩
  rw [same.driver, same.config, same.dma]
  exact driver

/-- A step that leaves the driver alone leaves an intact camera intact. -/
theorem SameDriver.intact
    {state next : State}
    (same : SameDriver state next)
    (intact : Intact state) :
    Intact next := by
  refine ⟨fun prepared => ?_, fun unprepared => ?_⟩
  · rw [same.driver, same.config, same.dma]
    exact intact.prepared (same.prepared ▸ prepared)
  · rw [same.driver, same.dma]
    exact intact.unprepared (same.prepared ▸ unprepared)

/-- The calls and interrupts that leave the driver as it is. -/
def Action.settles : Action → Bool
  | .advancedConfig _ _ | .config _ _ _ | .enableDoubleBuffering _ _
  | .disableDoubleBuffering _ | .setCaptureMode _ | .transferEnd => true
  | _ => false

/-- Settings and allocations do not reach the driver. -/
theorem sameDriver_of_settles
    {state next : State}
    {action : Action}
    (taken : step? state action = some next)
    (settles : action.settles = true) :
    SameDriver state next := by
  cases action with
  | advancedConfig window written =>
      cases taken
      exact ⟨rfl, rfl, rfl, rfl⟩
  | config fmt size configured =>
      cases taken
      exact ⟨rfl, rfl, rfl, rfl⟩
  | setCaptureMode mode =>
      cases taken
      exact ⟨rfl, rfl, rfl, rfl⟩
  | enableDoubleBuffering buff1 buff2 =>
      obtain ⟨⟨after, code⟩, enabled, rfl⟩ :=
        Option.map_eq_some_iff.mp taken
      obtain ⟨memory, -, rest⟩ := Option.bind_eq_some_iff.mp enabled
      cases buff1 with
      | none =>
          cases rest
          exact ⟨rfl, rfl, rfl, rfl⟩
      | some block =>
          obtain ⟨both, -, ended⟩ := Option.map_eq_some_iff.mp rest
          cases ended
          exact ⟨rfl, rfl, rfl, rfl⟩
  | disableDoubleBuffering buff1 =>
      simp only [step?, dcmiDisableDoubleBuffering?, Option.map_map] at taken
      obtain ⟨memory, -, rfl⟩ := Option.map_eq_some_iff.mp taken
      exact ⟨rfl, rfl, rfl, rfl⟩
  | transferEnd =>
      simp only [step?] at taken
      split at taken
      · cases taken
      · split at taken
        · cases taken
          exact ⟨rfl, rfl, rfl, rfl⟩
        · cases taken
  | _ => cases settles

/-- `dcmi_start` initialises the driver and forgets about `dcmi_prepared`. -/
theorem start_cases
    {state next : State}
    {buff1 : Option Nat}
    (taken : step? state (.start buff1) = some next) :
    next.dcmiPrepared = state.dcmiPrepared ∧
      next.state = .stop ∧
      next.hasConfig = false ∧
      next.dma = state.dma := by
  simp only [step?, dcmiStart?, Option.map_map] at taken
  obtain ⟨memory, -, rfl⟩ := Option.map_eq_some_iff.mp taken
  exact ⟨rfl, rfl, rfl, rfl⟩

/-- A capture begins from the state `DCMI_READY` only. -/
theorem captureStart_cases
    {state next : State}
    (taken : step? state .captureStart = some next) :
    state.state = .ready ∧
      ∃ active,
        (active = .activeOneshot ∨ active = .activeStream) ∧
          next = { state with state := active } := by
  simp only [step?, dcmiCaptureStart?] at taken
  cases mode : state.captureMode <;>
    simp only [mode, Hal.dcmiStartOneShot?, Hal.dcmiStartStream?,
      Option.ite_none_right_eq_some, Option.some.injEq] at taken
  · exact ⟨taken.1, _, .inl rfl, taken.2.symm⟩
  · exact ⟨taken.1, _, .inr rfl, taken.2.symm⟩

/-- A capture that does not stop in time ends in `DCMI_TIMEOUT`. -/
theorem captureStop_cases
    {state next : State}
    {inTime : Bool}
    (taken : step? state (.captureStop inTime) = some next) :
    (state.captureMode = .oneShot ∧ next = state) ∨
      state.captureMode = .continuous ∧
        state.state = .activeStream ∧
        next =
          { state with state := if inTime then .ready else .timeout } := by
  obtain ⟨⟨after, code⟩, stopped, rfl⟩ := Option.map_eq_some_iff.mp taken
  simp only [dcmiCaptureStop?] at stopped
  cases mode : state.captureMode with
  | oneShot =>
      simp only [mode] at stopped
      cases stopped
      exact .inl ⟨rfl, rfl⟩
  | continuous =>
      simp only [mode, Hal.dcmiStopStream?] at stopped
      split at stopped
      · rename_i streaming
        split at stopped <;> cases stopped <;>
          exact .inr ⟨rfl, streaming, by simp [*]⟩
      · cases stopped

/-- The frame-end interrupt leaves a driver alone that does not work. -/
theorem frameEnd_cases
    {state next : State}
    (taken : step? state .frameEnd = some next) :
    state.dma ≠ none ∧
      (((state.state = .timeout ∨ state.state = .error) ∧ next = state) ∨
        state.hasConfig = true ∧
          state.state ≠ .timeout ∧
          state.state ≠ .error ∧
          ∃ driver,
            (driver = .ready ∨ driver = .activeStream) ∧
              next = { state with state := driver }) := by
  simp only [step?, Hal.isrCode?] at taken
  split at taken
  · rename_i aims
    refine ⟨aims, ?_⟩
    split at taken
    · rename_i timeout
      cases taken
      exact .inl ⟨.inl timeout, rfl⟩
    · rename_i error
      cases taken
      exact .inl ⟨.inr error, rfl⟩
    all_goals
      split at taken
      · rename_i config
        cases taken
        exact .inr ⟨config, by simp_all, by simp_all, _, by simp, rfl⟩
      · cases taken
  · cases taken

/-- The interrupt of an error ends in `DCMI_ERROR`. -/
theorem error_cases
    {state next : State}
    (taken : step? state .error = some next) :
    state.dma ≠ none ∧
      state.hasConfig = true ∧
      next = { state with state := .error } := by
  simp only [step?, Hal.isrErrorCode?] at taken
  split at taken
  · rename_i aims
    split at taken
    · rename_i config
      cases taken
      exact ⟨aims, config, rfl⟩
    · cases taken
  · cases taken

/-- A broken camera stays so, whatever happens. -/
theorem broken_step
    {state next : State}
    {action : Action}
    (broken : Broken state)
    (taken : step? state action = some next) :
    Broken next := by
  obtain ⟨prepared, driver⟩ := broken
  cases action with
  | prepare | unprepare | captureStart =>
      cases taken.symm.trans (step?_of_broken ⟨prepared, driver⟩ rfl)
  | start buff1 =>
      obtain ⟨same, stop, cleared, -⟩ := start_cases taken
      exact ⟨same.trans prepared, .inr (.inr ⟨stop, .inr cleared⟩)⟩
  | captureStop inTime =>
      rcases captureStop_cases taken with ⟨-, rfl⟩ | ⟨-, streaming, -⟩
      · exact ⟨prepared, driver⟩
      · simp [streaming] at driver
  | frameEnd =>
      obtain ⟨aims, ⟨-, rfl⟩ | ⟨config, noTimeout, noError, -⟩⟩ :=
        frameEnd_cases taken
      · exact ⟨prepared, driver⟩
      · rcases driver with timeout | error | ⟨-, released | cleared⟩
        · exact (noTimeout timeout).elim
        · exact (noError error).elim
        · exact (aims released).elim
        · cases config.symm.trans cleared
  | error =>
      obtain ⟨-, -, rfl⟩ := error_cases taken
      exact ⟨prepared, .inr (.inl rfl)⟩
  | _ =>
      exact (sameDriver_of_settles taken rfl).broken ⟨prepared, driver⟩

/-- A DMA stream is allocated only while the camera is prepared. -/
theorem Intact.prepared_of_dma
    {state : State}
    (intact : Intact state)
    (aims : state.dma ≠ none) :
    state.dcmiPrepared = true := by
  cases prepared : state.dcmiPrepared with
  | true => rfl
  | false => exact (aims (intact.unprepared prepared).1).elim

/-- A driver that is past `DCMI_STOP` belongs to a prepared camera. -/
theorem Intact.prepared_of_active
    {state : State}
    (intact : Intact state)
    (active :
      state.state = .ready ∨ state.state = .activeOneshot ∨
        state.state = .activeStream) :
    state.dcmiPrepared = true := by
  cases prepared : state.dcmiPrepared with
  | true => rfl
  | false =>
      obtain ⟨-, idle⟩ := intact.unprepared prepared
      rcases idle with idle | idle <;> simp [idle] at active

/-- Another state of a prepared driver that works. -/
theorem Intact.withState
    {state : State}
    {driver : DcmiState}
    (intact : Intact state)
    (prepared : state.dcmiPrepared = true)
    (active :
      driver = .ready ∨ driver = .activeOneshot ∨ driver = .activeStream) :
    Intact { state with state := driver } := by
  obtain ⟨aims, config, -⟩ := intact.prepared prepared
  refine ⟨fun _ => ⟨aims, config, active⟩, fun unprepared => ?_⟩
  cases prepared.symm.trans unprepared

/-- Step lemma: sparing steps keep the driver in step with `dcmi_prepared`. -/
theorem intact_step
    {state next : State}
    {action : Action}
    (intact : Intact state)
    (sparing : Sparing state action)
    (taken : step? state action = some next) :
    Intact next := by
  cases action with
  | start buff1 =>
      obtain ⟨same, stop, -, dma⟩ := start_cases taken
      have unprepared : state.dcmiPrepared = false := sparing
      refine ⟨fun prepared => ?_, fun _ => ?_⟩
      · cases unprepared.symm.trans (same.symm.trans prepared)
      · exact ⟨dma.trans (intact.unprepared unprepared).1, .inr stop⟩
  | prepare =>
      obtain ⟨released, here, rest⟩ := prepare_cases taken
      rcases rest with ⟨rfl, tooLarge⟩ | ⟨rxbuf0, -, -, -, rfl⟩
      · rcases released_cases here with ⟨-, rfl⟩ | ⟨prepared, -, -, rfl⟩
        · exact intact
        · exact (Nat.not_lt.mpr (sparing prepared) tooLarge).elim
      · exact ⟨fun _ => ⟨by simp, rfl, .inl rfl⟩,
          fun impossible => by cases impossible⟩
  | unprepare =>
      obtain ⟨released, here, rfl⟩ := Option.map_eq_some_iff.mp taken
      refine ⟨fun impossible => ?_, fun _ => ?_⟩
      · cases impossible
      rcases released_cases here with ⟨unprepared, rfl⟩ | ⟨-, -, -, rfl⟩
      · exact intact.unprepared unprepared
      · exact ⟨rfl, .inr rfl⟩
  | captureStart =>
      obtain ⟨ready, active, isActive, rfl⟩ := captureStart_cases taken
      exact intact.withState (intact.prepared_of_active (.inl ready))
        (.inr isActive)
  | captureStop inTime =>
      rcases captureStop_cases taken with ⟨-, rfl⟩ | ⟨mode, streaming, rfl⟩
      · exact intact
      · rcases sparing with oneShot | rfl
        · cases mode.symm.trans oneShot
        · exact intact.withState
            (intact.prepared_of_active (.inr (.inr streaming))) (.inl rfl)
  | frameEnd =>
      obtain ⟨aims, ⟨-, rfl⟩ | ⟨-, -, -, driver, ended, rfl⟩⟩ :=
        frameEnd_cases taken
      · exact intact
      · exact intact.withState (intact.prepared_of_dma aims)
          (ended.imp_right .inr)
  | error => exact sparing.elim
  | _ => exact (sameDriver_of_settles taken rfl).intact intact

/-- Any other step breaks the camera. -/
theorem broken_of_not_sparing
    {state next : State}
    {action : Action}
    (intact : Intact state)
    (careless : ¬ Sparing state action)
    (taken : step? state action = some next) :
    Broken next := by
  cases action with
  | start buff1 =>
      obtain ⟨same, stop, cleared, -⟩ := start_cases taken
      have prepared : state.dcmiPrepared = true :=
        Bool.not_eq_false _ ▸ careless
      exact ⟨same.trans prepared, .inr (.inr ⟨stop, .inr cleared⟩)⟩
  | prepare =>
      obtain ⟨prepared, tooLarge⟩ := Classical.not_imp.mp careless
      obtain ⟨released, here, rest⟩ := prepare_cases taken
      rcases released_cases here with ⟨unprepared, -⟩ | ⟨-, -, -, rfl⟩
      · cases prepared.symm.trans unprepared
      · rcases rest with ⟨rfl, -⟩ | ⟨-, -, -, fits, -⟩
        · exact ⟨prepared, .inr (.inr ⟨rfl, .inl rfl⟩)⟩
        · exact (tooLarge fits).elim
  | captureStop inTime =>
      obtain ⟨notOneShot, late⟩ := not_or.mp careless
      rcases captureStop_cases taken with ⟨oneShot, -⟩ | ⟨-, streaming, rfl⟩
      · exact (notOneShot oneShot).elim
      · exact ⟨intact.prepared_of_active (.inr (.inr streaming)),
          .inl (by simp [late])⟩
  | error =>
      obtain ⟨aims, -, rfl⟩ := error_cases taken
      exact ⟨intact.prepared_of_dma aims, .inr (.inl rfl)⟩
  | _ => exact (careless trivial).elim

/-- From an intact camera on, broken and not sparing are the same. -/
theorem broken_exactly
    {state final : State}
    {actions : List Action}
    (intact : Intact state)
    (ran : run? step? state actions = some final) :
    ¬ Broken final ↔ Along step? Sparing state actions :=
  run?_exact_along intact_step not_broken_of_intact broken_of_not_sparing
    broken_step intact ran

/--
The runs after which the camera can still be used are those without an error,
without a capture that does not stop in time, and in which a prepared camera is
neither started again nor prepared for an image that is too large.
-/
theorem not_broken_iff_sparing
    {actions : List Action}
    {final : State}
    (ran : run? step? boot actions = some final) :
    ¬ Broken final ↔ Along step? Sparing boot actions :=
  broken_exactly intact_boot ran

theorem not_broken_iff_sparing_robotStart :
    ¬ Broken started ↔ Along step? Sparing boot robotStart :=
  not_broken_iff_sparing (run?_eq_some_getD rfl)

/--
After one step that is not sparing no run takes an image any more: it has no
`dcmi_prepare`, no `dcmi_unprepare` and no `dcmi_capture_start`.
-/
theorem no_use_once_careless
    {earlier later : List Action}
    {middle final : State}
    {action : Action}
    (ran : run? step? boot earlier = some middle)
    (careless : ¬ Along step? Sparing boot earlier)
    (goesOn : run? step? middle later = some final)
    (member : action ∈ later) :
    action.uses = false := by
  have broken : Broken middle :=
    not_not.mp (careless ∘ (broken_exactly intact_boot ran).mp)
  obtain ⟨before, after, rfl⟩ := List.append_of_mem member
  obtain ⟨state, came, rest⟩ := run?_append_eq_some.mp goesOn
  obtain ⟨next, taken, -⟩ := run?_cons_eq_some.mp rest
  have stillBroken : Broken state := run?_invariant broken_step broken came
  cases uses : action.uses with
  | false => rfl
  | true => cases taken.symm.trans (step?_of_broken stillBroken uses)

/-- The robot's camera is set to a larger window, and prepared again. -/
def preparedAgain : List Action :=
  robotStart ++
    [.advancedConfig ⟨.ycbycr, 240, 180, 160, 120, .x1, .x1⟩ .all, .prepare]

theorem no_use_once_careless_preparedAgain :
    (Action.start none).uses = false :=
  @no_use_once_careless preparedAgain [.start none]
    ((run? step? boot preparedAgain).getD boot)
    ((run? step? boot (preparedAgain ++ [.start none])).getD boot)
    (.start none) (run?_eq_some_getD rfl) (by decide)
    rfl List.mem_cons_self

end EPuckTavern.CameraMemory
