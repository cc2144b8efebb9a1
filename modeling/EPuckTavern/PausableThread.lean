import EPuckTavern.Platform

namespace EPuckTavern

/-!
# Start, pause and resume of a permanent thread

`walk.c`, `avoid_obstacles.c` and `process_image.c` each keep the two flags
`thd_is_created` and `is_paused` and export the same three functions over
them.  The functions are given twice: as one update of the flags, which is
what a caller sees once the call has returned, and as the sequence of flag
accesses that other threads can interleave with.
-/

/-- The file-static flags of a pausable thread's module. -/
structure PauseFlags where
  thdIsCreated : Bool
  isPaused : Bool
  deriving Repr, DecidableEq

namespace PauseFlags

/-- The static variables when the robot starts. -/
def initial : PauseFlags where
  thdIsCreated := false
  isPaused := false

/-- The start function in one piece. -/
def startThd (flags : PauseFlags) : PauseFlags :=
  if !flags.thdIsCreated then
    { thdIsCreated := true, isPaused := false }
  else
    flags

/-- The pause function in one piece. -/
def pauseThd (flags : PauseFlags) : PauseFlags :=
  if !flags.isPaused && flags.thdIsCreated then
    { flags with isPaused := true }
  else
    flags

/-- The resume function in one piece. -/
def resumeThd (flags : PauseFlags) : PauseFlags :=
  if flags.isPaused && flags.thdIsCreated then
    { flags with isPaused := false }
  else
    flags

end PauseFlags

/-- The three functions exported by a pausable thread's module. -/
inductive PauseFunction where
  | startThd
  | pauseThd
  | resumeThd
  deriving Repr, DecidableEq

/-- The next atomic statement of a call of one of the three functions. -/
inductive CallPoint where
  | startTestCreated
  | startCreate
  | startStorePaused
  | startStoreCreated
  | pauseTestPaused
  | pauseTestCreated
  | pauseStore
  | resumeTestPaused
  | resumeTestCreated
  | resumeStore
  deriving Repr, DecidableEq

namespace PauseFunction

/-- The first statement of a function. -/
def entry : PauseFunction → CallPoint
  | .startThd => .startTestCreated
  | .pauseThd => .pauseTestPaused
  | .resumeThd => .resumeTestPaused

/-- What a function does to the flags in one piece. -/
def effect : PauseFunction → PauseFlags → PauseFlags
  | .startThd => PauseFlags.startThd
  | .pauseThd => PauseFlags.pauseThd
  | .resumeThd => PauseFlags.resumeThd

end PauseFunction

namespace CallPoint

/-- The function that a control point is in. -/
def function : CallPoint → PauseFunction
  | .startTestCreated | .startCreate
  | .startStorePaused | .startStoreCreated => .startThd
  | .pauseTestPaused | .pauseTestCreated | .pauseStore => .pauseThd
  | .resumeTestPaused | .resumeTestCreated | .resumeStore => .resumeThd

/-- The store of a control point, if it is one. -/
def store (flags : PauseFlags) : CallPoint → PauseFlags
  | .startStorePaused => { flags with isPaused := false }
  | .startStoreCreated => { flags with thdIsCreated := true }
  | .pauseStore => { flags with isPaused := true }
  | .resumeStore => { flags with isPaused := false }
  | _ => flags

/-- The statement after a statement; `none` once the call has returned. -/
def next? (flags : PauseFlags) : CallPoint → Option CallPoint
  | .startTestCreated =>
      if !flags.thdIsCreated then some .startCreate else none
  | .startCreate => some .startStorePaused
  | .startStorePaused => some .startStoreCreated
  | .startStoreCreated => none
  | .pauseTestPaused =>
      if !flags.isPaused then some .pauseTestCreated else none
  | .pauseTestCreated =>
      if flags.thdIsCreated then some .pauseStore else none
  | .pauseStore => none
  | .resumeTestPaused =>
      if flags.isPaused then some .resumeTestCreated else none
  | .resumeTestCreated =>
      if flags.thdIsCreated then some .resumeStore else none
  | .resumeStore => none

/-- Run the statements of a call without interference. -/
def complete : Nat → CallPoint → PauseFlags → PauseFlags
  | 0, _, flags => flags
  | fuel + 1, point, flags =>
      match point.next? flags with
      | none => point.store flags
      | some following => following.complete fuel (point.store flags)

end CallPoint

/--
The statements of each function add up to its flag update.  Only the caller
writes the flags, so this is also the effect of an interleaved call.
-/
theorem PauseFunction.complete_entry
    (function : PauseFunction)
    (flags : PauseFlags) :
    CallPoint.complete 4 function.entry flags =
      function.effect flags := by
  rcases flags with ⟨created, paused⟩
  cases function <;> cases created <;> cases paused <;> rfl

namespace CallPoint

/-- Whether the thread exists after a statement. -/
def creates (present : Bool) : CallPoint → Bool
  | .startCreate => true
  | _ => present

/--
What holds of the flags and of the thread's existence while the caller is at
a given point of a call, or between calls (`none`): the thread exists exactly
when it is recorded as created, except between the statements of the start
function, and only a recorded thread is ever paused.
-/
def consistent (flags : PauseFlags) (present : Bool) :
    Option CallPoint → Bool
  | some .startCreate =>
      !present && !flags.thdIsCreated && !flags.isPaused
  | some .startStorePaused | some .startStoreCreated =>
      present && !flags.thdIsCreated && !flags.isPaused
  | some .pauseStore =>
      present && flags.thdIsCreated
  | _ =>
      present == flags.thdIsCreated &&
        (flags.thdIsCreated || !flags.isPaused)

/-- Each statement of a call keeps the flags and the thread consistent. -/
theorem consistent_next
    {flags : PauseFlags}
    {present : Bool}
    {point : CallPoint}
    (holds : consistent flags present (some point) = true) :
    consistent (point.store flags) (point.creates present)
      (point.next? flags) = true := by
  rcases flags with ⟨created, paused⟩
  revert holds
  cases point <;> cases created <;> cases paused <;>
    cases present <;> decide

theorem consistent_entry
    {flags : PauseFlags}
    {present : Bool}
    (holds : consistent flags present none = true)
    (function : PauseFunction) :
    consistent flags present (some function.entry) = true := by
  cases function <;> exact holds

/--
When a pause call returns, its thread exists and is marked as paused, or it
has not been created and is not marked.
-/
theorem flags_of_pause_return
    {flags : PauseFlags}
    {present : Bool}
    {point : CallPoint}
    (holds : consistent flags present (some point) = true)
    (pausing : point.function = .pauseThd)
    (returns : point.next? flags = none) :
    point.creates present = (point.store flags).thdIsCreated ∧
      (point.store flags).isPaused = (point.store flags).thdIsCreated := by
  rcases flags with ⟨created, paused⟩
  revert holds pausing returns
  cases point <;> cases created <;> cases paused <;>
    cases present <;> decide

end CallPoint

end EPuckTavern
