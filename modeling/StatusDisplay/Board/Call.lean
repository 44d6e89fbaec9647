import StatusDisplay.Board.Status

/-!
# Calls to the hardware

Everything that the driver can ask of the board is one `Call`. A call that reads something carries
the value that was read, so a list of calls tells the whole exchange with the board.
-/

namespace StatusDisplay

/-- Clock speeds of the bus. -/
inductive Speed where
  | standard
  | fast
  deriving DecidableEq, Repr

/-- Clock frequency in hertz. -/
def Speed.hertz : Speed → Nat
  | .standard => 100000
  | .fast => 400000

/-- The two lines of the bus. -/
inductive Line where
  /-- The clock line. -/
  | scl
  /-- The data line. -/
  | sda
  deriving DecidableEq, Repr

/-- How a line is connected. -/
inductive LineMode where
  /-- Driven by hand: pulled low or released. -/
  | openDrain
  /-- Read, with a weak pull-up. -/
  | pullUpInput
  /-- Read, with a weak pull-down. -/
  | pullDownInput
  /-- Driven by the bus master. -/
  | busMaster
  deriving DecidableEq, Repr

/-- The interrupts of the driver. All share one priority, so none interrupts another. -/
inductive Irq where
  /-- A start condition was sent or an address acknowledged. -/
  | busEvent
  /-- The bus master met an error, or the watchdog ran out. -/
  | busError
  /-- A transfer is complete. -/
  | transferDone
  deriving DecidableEq, Repr

/-- Every interrupt, in the order in which the driver sets them up. -/
def Irq.all : List Irq := [.busEvent, .busError, .transferDone]

/-- One request to the board. -/
inductive Call where
  | setPowered (on : Bool)
  | configure (speed : Speed)
  | disable
  | reset
  | status (word : Status)
  | clearErrors (cleared : Status)
  | requestStart
  | requestStop
  | stopPending (busy : Bool)
  | writeData (byte : UInt8)
  | acknowledgeAddress
  | setEventIrq (on : Bool)
  | setErrorIrq (on : Bool)
  | setTransferRequests (on : Bool)
  | startTransfer (bytes : List UInt8)
  | stopTransfer
  | setLineMode (line : Line) (mode : LineMode)
  | release (line : Line)
  | pullLow (line : Line)
  | sample (line : Line) (high : Bool)
  | setPriority (irq : Irq) (priority : UInt8)
  | enableIrq (irq : Irq)
  | disableIrq (irq : Irq)
  | clearPending (irq : Irq)
  | setPending (irq : Irq)
  | armAlarm (micros : Nat)
  | cancelAlarm
  | delayMicros (micros : Nat)
  | delayNanos (nanos : Nat)
  deriving DecidableEq, Repr

namespace Call

/-- The speed that a call configures. -/
def speed? : Call → Option Speed
  | configure speed => some speed
  | _ => none

/-- The whole microseconds that a call waits by. -/
def delay? : Call → Option Nat
  | delayMicros micros => some micros
  | delayNanos nanos => some (nanos / 1000)
  | _ => none

/-- The bytes that a call hands to the transfer channel. -/
def transfer? : Call → Option (List UInt8)
  | startTransfer bytes => some bytes
  | _ => none

/-- Whether a call changes how a line is connected or driven. -/
def isLineEvent : Call → Bool
  | setLineMode .. | release _ | pullLow _ => true
  | _ => false

/-- Whether a call arms the alarm. -/
def isArm : Call → Bool
  | armAlarm _ => true
  | _ => false

end Call

end StatusDisplay
