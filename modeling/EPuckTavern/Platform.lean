import Mathlib.Data.Rat.Defs
import Mathlib.Data.UInt

namespace EPuckTavern

/-!
# Clock, numbers and motors of the e-puck2

The parts of ChibiOS, of C arithmetic and of the motor library that the
threads of the project share: the 32-bit system clock
(`CH_CFG_ST_RESOLUTION`), whose differences wrap, the conversion to ticks of
`chvt.h`, the conversions to `int16_t`, and the two motor commands.
-/

/-- `systime_t`: the system clock counts ticks in 32 bits. -/
abbrev Systime := UInt32

/-- `CH_CFG_ST_FREQUENCY` [ticks/s]. -/
def chCfgStFrequency : UInt32 := 1000

/-- `S2ST`: seconds to system ticks. -/
def s2st (sec : UInt32) : Systime :=
  sec * chCfgStFrequency

/-- Without wrap-around a clock difference is the elapsed number of ticks. -/
theorem toNat_elapsed
    {now since : Systime}
    (ordered : since ≤ now) :
    (now - since).toNat = now.toNat - since.toNat :=
  UInt32.toNat_sub_of_le now since ordered

theorem lt_elapsed_iff
    {now since : Systime}
    (ordered : since ≤ now)
    (ticks : Systime) :
    ticks < now - since ↔ since.toNat + ticks.toNat < now.toNat := by
  rw [UInt32.lt_iff_toNat_lt, toNat_elapsed ordered, Nat.add_comm]
  exact Nat.lt_sub_iff_add_lt

/-- Conversion of an integer to `int16_t`, modulo 2^16. -/
def toInt16 (value : Int) : Int :=
  value.bmod (2 ^ 16)

/-- Conversion of a `float` to an integer: truncation towards zero. -/
def truncate (value : ℚ) : Int :=
  value.num.tdiv value.den

/-- The two stepper motors. -/
inductive Motor where
  | left
  | right
  deriving Repr, DecidableEq

/-- One call of `left_motor_set_speed` or `right_motor_set_speed` [step/s]. -/
structure MotorCommand where
  motor : Motor
  speed : Int
  deriving Repr, DecidableEq

/-- `left_motor_set_speed`. -/
def leftMotorSetSpeed (speed : Int) : MotorCommand :=
  ⟨.left, speed⟩

/-- `right_motor_set_speed`. -/
def rightMotorSetSpeed (speed : Int) : MotorCommand :=
  ⟨.right, speed⟩

/-- `SPEED_STOP` [step/s]. -/
def speedStop : Int := 0

/-- `SPEED_ROTATION` [step/s]. -/
def speedRotation : Int := 700

end EPuckTavern
