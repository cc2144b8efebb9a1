import EPuckTavern.Data.Ownership
import EPuckTavern.Transition.Run

namespace EPuckTavern.CameraMemory

open Transition Data

/-!
# The memory of the camera, `dcmi_camera.c` and the driver below it

The functions of `dcmi_camera.c` allocate one or two image buffers, aim the DMA
at them and start captures; `dcmi.c` and `dcmi_lld.c` keep the state of the
driver and halt the system where one of their checks fails.  A step is one
call, with what `malloc` or the camera answer, or one interrupt; there is none
where the system halts.
-/

/-- `MAX_BUFF_SIZE` -/
def maxBuffSize : Nat := 19200

/-- `format_t` -/
inductive Format where
  | cbycry | crycby | ycbycr | ycrycb
  | rggb | gbrg | grbg | bggr
  | rgb565 | rgb565ByteSwap | bgr565 | bgr565ByteSwap
  | rgb444 | rgb444ByteSwap | dpcBayer
  | yyyy
  deriving Repr, DecidableEq

/-- `subsampling_t` -/
inductive Subsampling where
  | x1
  | x2
  | x4
  deriving Repr, DecidableEq

/-- `po8030_conf` -/
structure Conf where
  width : UInt16
  height : UInt16
  currFormat : Format
  deriving Repr, DecidableEq

/-- `po8030_get_image_size` -/
def po8030GetImageSize (conf : Conf) : UInt32 :=
  if conf.currFormat = .yyyy then
    conf.width.toUInt32 * conf.height.toUInt32
  else
    conf.width.toUInt32 * conf.height.toUInt32 * 2

/-- How far the writes to the registers of the camera succeed. -/
inductive Written where
  | nothing (err : Int)
  /-- Up to the end of `po8030_set_format`. -/
  | format (err : Int)
  | all
  deriving Repr, DecidableEq

/-- The `switch` on the subsampling of an axis: first and last pixel. -/
def subsampled? (first size : UInt32) :
    Subsampling → Option (UInt32 × UInt32)
  | .x1 => some (first, first + size - 1)
  | .x2 =>
      if size % 2 ≠ 0 then
        none
      else
        some (first / 2 + 1, first / 2 + 1 + size / 2 - 1)
  | .x4 =>
      if size % 4 ≠ 0 then
        none
      else
        some (first / 4 + 1, first / 4 + 1 + size / 4 - 1)

/-- The arguments of `po8030_advanced_config`. -/
structure Window where
  fmt : Format
  x1 : UInt32
  y1 : UInt32
  width : UInt32
  height : UInt32
  subsamplingX : Subsampling
  subsamplingY : Subsampling
  deriving Repr, DecidableEq

/-- `po8030_advanced_config` -/
def po8030AdvancedConfig
    (window : Window)
    (written : Written)
    (conf : Conf) : Conf × Int :=
  let x2 := window.x1 + window.width - 1
  let y2 := window.y1 + window.height - 1
  if 640 < window.width ∨ 480 < window.height then
    (conf, -8)
  else if 640 < window.x1 then
    (conf, -2)
  else if 480 < window.y1 then
    (conf, -3)
  else if x2 ≤ window.x1 ∨ 640 < x2 then
    (conf, -4)
  else if y2 ≤ window.y1 ∨ 480 < y2 then
    (conf, -5)
  else
    match subsampled? window.x1 window.width window.subsamplingX with
    | none => (conf, -6)
    | some (x1, x2) =>
        match subsampled? window.y1 window.height window.subsamplingY with
        | none => (conf, -7)
        | some (y1, y2) =>
            match written with
            | .nothing err => (conf, err)
            | .format err => ({ conf with currFormat := window.fmt }, err)
            | .all =>
                ({ width := (x2 - x1 + 1).toUInt16
                   height := (y2 - y1 + 1).toUInt16
                   currFormat := window.fmt }, 0)

/-- `image_size_t` -/
inductive ImageSize where
  | vga
  | qvga
  | qqvga
  deriving Repr, DecidableEq

/-- `po8030_set_size`, when all its writes succeed -/
def po8030SetSize (size : ImageSize) (conf : Conf) : Conf :=
  match size with
  | .vga => { conf with width := 640, height := 480 }
  | .qvga => { conf with width := 320, height := 240 }
  | .qqvga => { conf with width := 160, height := 120 }

/-- How far the writes of `po8030_config` succeed. -/
inductive Configured where
  | nothing (err : Int)
  /-- Up to the end of `po8030_set_format`. -/
  | format (err : Int)
  /-- Up to the end of `po8030_set_size`. -/
  | size (err : Int)
  | all
  deriving Repr, DecidableEq

/-- `po8030_config`, which checks nothing before it writes -/
def po8030Config
    (fmt : Format)
    (size : ImageSize)
    (configured : Configured)
    (conf : Conf) : Conf × Int :=
  match configured with
  | .nothing err => (conf, err)
  | .format err => ({ conf with currFormat := fmt }, err)
  | .size err => (po8030SetSize size { conf with currFormat := fmt }, err)
  | .all => (po8030SetSize size { conf with currFormat := fmt }, 0)

/-- `dcmistate_t`; `DCMI_COMPLETE` lasts for the frame-end callback only. -/
inductive DcmiState where
  | uninit
  | stop
  | ready
  | activeStream
  | activeOneshot
  | error
  | timeout
  deriving Repr, DecidableEq

/-- `capture_mode_t` -/
inductive CaptureMode where
  | oneShot
  | continuous
  deriving Repr, DecidableEq

/-- What the stream of the DMA is set to while it is allocated. -/
structure Dma where
  memory0 : Nat
  /-- With double buffering, which is on if this is not `NULL`. -/
  memory1 : Option Nat
  /-- Of one word each. -/
  transactions : Nat
  deriving Repr, DecidableEq

/--
The static variables of the three files, the heap and the stream of the DMA.
-/
structure State where
  conf : Conf
  /-- The heap, with `image_buff1`, for `false`, and `image_buff2`. -/
  memory : Store Bool Nat
  doubleBuffering : Bool
  captureMode : CaptureMode
  dcmiPrepared : Bool
  state : DcmiState
  /-- `config` of the driver is not `NULL`. -/
  hasConfig : Bool
  dma : Option Dma
  /-- The bit `CT` of the stream: the second buffer is being filled. -/
  current : Bool

/-- Static variables before the first call. -/
def boot : State where
  conf := ⟨0, 0, .cbycry⟩
  memory := Store.empty
  doubleBuffering := false
  captureMode := .oneShot
  dcmiPrepared := false
  state := .uninit
  hasConfig := false
  dma := none
  current := false

namespace Hal

/-- `dcmiInit` -/
def dcmiInit (state : State) : State :=
  { state with state := .stop, hasConfig := false }

/-- `dcmiPrepare`, with `dcmi_lld_prepare` -/
def dcmiPrepare? (transactionSize : Nat) (state : State) : Option State :=
  match state.memory.pointer false with
  | none => none
  | some rxbuf0 =>
      if transactionSize ≤ 65535 * 4 ∧ transactionSize % 4 = 0 ∧
          state.state = .stop ∧ state.dma = none then
        some { state with
          hasConfig := true
          dma :=
            some
              { memory0 := rxbuf0
                memory1 := state.memory.pointer true
                transactions := transactionSize / 4 }
          current := false
          state := .ready }
      else
        none

/-- `dcmiUnprepare`, with `dcmi_lld_unprepare` -/
def dcmiUnprepare? (state : State) : Option State :=
  if state.state = .ready ∧ state.dma ≠ none then
    some { state with dma := none, state := .stop }
  else
    none

/-- `dcmiStartOneShot` -/
def dcmiStartOneShot? (state : State) : Option State :=
  if state.state = .ready then
    some { state with state := .activeOneshot }
  else
    none

/-- `dcmiStartStream` -/
def dcmiStartStream? (state : State) : Option State :=
  if state.state = .ready then
    some { state with state := .activeStream }
  else
    none

/-- `dcmiStopStream`; the capture ends within 200 ms, or it does not. -/
def dcmiStopStream? (inTime : Bool) (state : State) : Option (State × Int) :=
  if state.state = .activeStream then
    if inTime then
      some ({ state with state := .ready }, 0)
    else
      some ({ state with state := .timeout }, -1)
  else
    none

/-- `_dcmi_isr_code` -/
def isrCode? (state : State) : Option State :=
  match state.state with
  | .timeout | .error => some state
  | .activeOneshot | .ready =>
      if state.hasConfig then
        some { state with state := .ready }
      else
        none
  | _ =>
      if state.hasConfig then
        some { state with state := .activeStream }
      else
        none

/-- `_dcmi_isr_error_code` -/
def isrErrorCode? (state : State) : Option State :=
  if state.hasConfig then
    some { state with state := .error }
  else
    none

end Hal

/-- The greatest image that `dcmi_prepare` accepts. -/
def room (doubleBuffering : Bool) : Nat :=
  if doubleBuffering then maxBuffSize / 2 else maxBuffSize

/-- `dcmi_start` -/
def dcmiStart? (buff1 : Option Nat) (state : State) : Option (State × Int) :=
  let started := Hal.dcmiInit state
  ((started.memory.release false).allocate? false maxBuffSize buff1).map
    fun memory =>
      ({ started with memory := memory }, if buff1.isSome then 0 else -1)

/-- `dcmi_prepare` -/
def dcmiPrepare? (state : State) : Option (State × Int) :=
  (if state.dcmiPrepared then Hal.dcmiUnprepare? state else some state).bind
    fun released =>
      let imageSize := (po8030GetImageSize released.conf).toNat
      if room released.doubleBuffering < imageSize then
        some (released, -1)
      else
        (Hal.dcmiPrepare? imageSize released).map
          fun prepared => ({ prepared with dcmiPrepared := true }, 0)

/-- `dcmi_unprepare` -/
def dcmiUnprepare? (state : State) : Option State :=
  (if state.dcmiPrepared then Hal.dcmiUnprepare? state else some state).map
    fun released => { released with dcmiPrepared := false }

/-- `dcmi_enable_double_buffering` -/
def dcmiEnableDoubleBuffering?
    (buff1 buff2 : Option Nat)
    (state : State) : Option (State × Int) :=
  ((state.memory.release false).allocate? false (maxBuffSize / 2) buff1).bind
    fun memory =>
      match buff1 with
      | none =>
          some
            ({ state with doubleBuffering := true, memory := memory }, -1)
      | some _ =>
          ((memory.release true).allocate? true (maxBuffSize / 2) buff2).map
            fun memory =>
              ({ state with doubleBuffering := true, memory := memory },
                if buff2.isSome then 0 else -1)

/-- `dcmi_disable_double_buffering` -/
def dcmiDisableDoubleBuffering?
    (buff1 : Option Nat)
    (state : State) : Option (State × Int) :=
  (((state.memory.release true).release false).allocate? false maxBuffSize
      buff1).map
    fun memory =>
      ({ state with doubleBuffering := false, memory := memory },
        if buff1.isSome then 0 else -1)

/-- `dcmi_get_last_image_ptr` -/
def dcmiGetLastImagePtr (state : State) : Option Nat :=
  if state.doubleBuffering then
    if state.current then
      state.memory.pointer false
    else
      state.memory.pointer true
  else
    state.memory.pointer false

/-- `dcmi_capture_start` -/
def dcmiCaptureStart? (state : State) : Option State :=
  match state.captureMode with
  | .oneShot => Hal.dcmiStartOneShot? state
  | .continuous => Hal.dcmiStartStream? state

/-- `dcmi_capture_stop` -/
def dcmiCaptureStop? (inTime : Bool) (state : State) : Option (State × Int) :=
  match state.captureMode with
  | .oneShot => some (state, 0)
  | .continuous => Hal.dcmiStopStream? inTime state

/-- The calls with what they are told, and the interrupts: all the functions of
`dcmi_camera.h` that change its state, and the two that set the size of the
image. -/
inductive Action where
  | start (buff1 : Option Nat)
  | advancedConfig (window : Window) (written : Written)
  | config (fmt : Format) (size : ImageSize) (configured : Configured)
  | enableDoubleBuffering (buff1 buff2 : Option Nat)
  | disableDoubleBuffering (buff1 : Option Nat)
  | setCaptureMode (mode : CaptureMode)
  | prepare
  | unprepare
  | captureStart
  | captureStop (inTime : Bool)
  /-- The interrupt of the DCMI at the end of a frame. -/
  | frameEnd
  /-- The interrupt of the DMA at the end of a transfer. -/
  | transferEnd
  /-- An error of the DMA or an overflow of the DCMI. -/
  | error
  deriving Repr, DecidableEq

/-- One call from beginning to end, or one interrupt. -/
def step? : Step State Action
  | state, .start buff1 => (dcmiStart? buff1 state).map Prod.fst
  | state, .advancedConfig window written =>
      some { state with
        conf := (po8030AdvancedConfig window written state.conf).1 }
  | state, .config fmt size configured =>
      some { state with
        conf := (po8030Config fmt size configured state.conf).1 }
  | state, .enableDoubleBuffering buff1 buff2 =>
      (dcmiEnableDoubleBuffering? buff1 buff2 state).map Prod.fst
  | state, .disableDoubleBuffering buff1 =>
      (dcmiDisableDoubleBuffering? buff1 state).map Prod.fst
  | state, .setCaptureMode mode => some { state with captureMode := mode }
  | state, .prepare => (dcmiPrepare? state).map Prod.fst
  | state, .unprepare => dcmiUnprepare? state
  | state, .captureStart => dcmiCaptureStart? state
  | state, .captureStop inTime =>
      (dcmiCaptureStop? inTime state).map Prod.fst
  | state, .frameEnd =>
      if state.dma ≠ none then Hal.isrCode? state else none
  | state, .transferEnd =>
      -- The DMA changes over to its other buffer, if it has one.
      match state.dma with
      | none => none
      | some dma =>
          if state.hasConfig then
            some { state with current := dma.memory1.isSome && !state.current }
          else
            none
  | state, .error =>
      if state.dma ≠ none then Hal.isrErrorCode? state else none

end EPuckTavern.CameraMemory
