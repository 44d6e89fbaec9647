import StatusDisplay.Board.Peripherals

/-!
# The transfer watchdog

Every transfer has to end within a fixed time. The watchdog sets the board's alarm for that time
and remembers whether it is set.
-/

namespace StatusDisplay

/-- The time that a transfer may take, and whether the alarm is set for it. -/
structure Watchdog where
  /-- Microseconds. -/
  timeout : Nat
  armed : Bool := false
  deriving DecidableEq, Repr

namespace Watchdog

/-- Sets the alarm to the full time, whether or not it was set. -/
def rearm (watchdog : Watchdog) (board : Board) : Watchdog × Board :=
  ({ watchdog with armed := true }, board.armAlarm watchdog.timeout)

/-- Switches the alarm off. -/
def cancel (watchdog : Watchdog) (board : Board) : Watchdog × Board :=
  ({ watchdog with armed := false }, board.cancelAlarm)

end Watchdog

end StatusDisplay
