/-!
# Failures

What goes wrong on the bus, why a bring-up is given up, and the kinds under which the driver's
statistics record either.
-/

namespace StatusDisplay

/-- How a wait for the bus fails. -/
inductive BusError where
  /-- Nothing happened within the timeout. -/
  | timeout
  /-- The bus master raised an error flag. -/
  | fault
  deriving DecidableEq, Repr

/-- Why the display could not be brought up. -/
inductive BringUpError where
  /-- The lines are not pulled up. -/
  | invalidBus
  /-- No address of the scan acknowledged. -/
  | noDeviceFound
  | bus (error : BusError)
  deriving DecidableEq, Repr

/-- The kinds of failure that are recorded. -/
inductive FailureKind where
  | busTimeout
  | busFault
  /-- The watchdog ran out although no error flag is set. -/
  | transferStall
  | noDeviceFound
  | invalidBus
  deriving DecidableEq, Repr

namespace FailureKind

/-- Every kind, in the order of declaration. -/
def all : List FailureKind := [busTimeout, busFault, transferStall, noDeviceFound, invalidBus]

/-- The text of a kind. -/
def message : FailureKind → String
  | busTimeout => "bus timeout"
  | busFault => "bus fault"
  | transferStall => "transfer stall"
  | noDeviceFound => "no device found"
  | invalidBus => "invalid bus"

end FailureKind

/-- The kind that records a bus error. -/
def BusError.kind : BusError → FailureKind
  | timeout => .busTimeout
  | fault => .busFault

/-- The text of a bus error. -/
def BusError.message : BusError → String
  | timeout => "bus locked up"
  | fault => "bus fault"

/-- The kind that records a failed bring-up. -/
def BringUpError.kind : BringUpError → FailureKind
  | invalidBus => .invalidBus
  | noDeviceFound => .noDeviceFound
  | bus error => error.kind

/-- The text of a failed bring-up. -/
def BringUpError.message : BringUpError → String
  | invalidBus => "invalid bus"
  | noDeviceFound => "no device found"
  | bus error => error.message

end StatusDisplay
