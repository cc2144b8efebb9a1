import EPuckTavern.PausableThread

namespace EPuckTavern.Walk

/-!
# The stroll thread `thd_walk`

The thread draws three laps of a butterfly and waits.  A control point names
the next atomic statement: a motor command, a sleep, or the access to
`is_paused`, which is read only at the head of the `while(1)` loop.
-/

/-- `SPEED_BUTTERFLY` [step/s]. -/
def speedButterfly : Int := 1000

/-- `walk_start_thd` on the flags of `walk.c`. -/
def walkStartThd : PauseFlags → PauseFlags :=
  PauseFlags.startThd

/-- `walk_pause_thd` -/
def walkPauseThd : PauseFlags → PauseFlags :=
  PauseFlags.pauseThd

/-- `walk_resume_thd` -/
def walkResumeThd : PauseFlags → PauseFlags :=
  PauseFlags.resumeThd

/-- Control points of `thd_walk`; `lap` is the `for` counter. -/
inductive Pc where
  | readTime
  | testPaused
  | turnLeft (lap : Fin 3)
  | turnRight (lap : Fin 3)
  | sleepTurn (lap : Fin 3)
  | forwardLeft (lap : Fin 3)
  | forwardRight (lap : Fin 3)
  | sleepSegment (lap : Fin 3)
  | stopLeft (lap : Fin 3)
  | stopRight (lap : Fin 3)
  | sleepButterfly
  | sleepUntil
  deriving Repr, DecidableEq

/-- Leave a lap: `i++` and the loop test `i < 3`. -/
def afterLap (lap : Fin 3) : Pc :=
  if more : lap.val + 1 < 3 then
    .turnLeft ⟨lap.val + 1, more⟩
  else
    .sleepButterfly

/-- One statement of `thd_walk`, given the current value of `is_paused`. -/
def step (isPaused : Bool) : Pc → Pc
  | .readTime => .testPaused
  | .testPaused => if !isPaused then .turnLeft 0 else .sleepUntil
  | .turnLeft lap => .turnRight lap
  | .turnRight lap => .sleepTurn lap
  | .sleepTurn lap => .forwardLeft lap
  | .forwardLeft lap => .forwardRight lap
  | .forwardRight lap => .sleepSegment lap
  | .sleepSegment lap => .stopLeft lap
  | .stopLeft lap => .stopRight lap
  | .stopRight lap => afterLap lap
  | .sleepButterfly => .sleepUntil
  | .sleepUntil => .readTime

/-- The motor command that the statement at a control point issues. -/
def command? : Pc → Option MotorCommand
  | .turnLeft _ => some (leftMotorSetSpeed speedButterfly)
  | .turnRight _ => some (rightMotorSetSpeed (-speedButterfly))
  | .forwardLeft _ => some (leftMotorSetSpeed speedButterfly)
  | .forwardRight _ => some (rightMotorSetSpeed speedButterfly)
  | .stopLeft _ => some (leftMotorSetSpeed speedStop)
  | .stopRight _ => some (rightMotorSetSpeed speedStop)
  | _ => none

/--
Outside the three laps: every motor command that lies ahead is behind the
next test of `is_paused`.
-/
def Quiet : Pc → Prop
  | .readTime | .testPaused | .sleepButterfly | .sleepUntil => True
  | _ => False

/-- A paused thread that is outside its lap stays outside. -/
theorem quiet_step
    {pc : Pc}
    (quiet : Quiet pc) :
    Quiet (step true pc) := by
  cases pc <;> first | exact quiet.elim | trivial

/-- A thread outside its lap issues no command. -/
theorem command?_of_quiet
    {pc : Pc}
    (quiet : Quiet pc) :
    command? pc = none := by
  cases pc <;> first | exact quiet.elim | rfl

/-- Inside a lap a motor command is at most one sleep away. -/
theorem command_soon
    {pc : Pc}
    (moving : ¬ Quiet pc)
    (isPaused : Bool) :
    (command? pc).isSome = true ∨
      (command? (step isPaused pc)).isSome = true := by
  cases pc <;>
    first
      | exact (moving trivial).elim
      | exact Or.inl rfl
      | exact Or.inr rfl

/-- A thread that is not paused begins its lap with a command. -/
theorem command_after_test :
    (command? (step false (step false .readTime))).isSome = true :=
  rfl

end EPuckTavern.Walk
