import StatusDisplay.Board.Basic

/-!
# Transfer channel, interrupts, alarm and delays

The transfer channel feeds bytes to the bus master by itself. The alarm is a single-shot timer
that, when it runs out, raises the bus error interrupt.
-/

namespace StatusDisplay.Board

/-- Hands `bytes` to the transfer channel. -/
def startTransfer (board : Board) (bytes : List UInt8) : Board :=
  { board with transferActive := true }.record (.startTransfer bytes)

/-- Acknowledges the end of a transfer, or aborts it. -/
def stopTransfer (board : Board) : Board :=
  { board with transferActive := false }.record .stopTransfer

/-- Sets the priority of an interrupt. -/
def setPriority (board : Board) (irq : Irq) (priority : UInt8) : Board :=
  { board with irqs := board.irqs.modify irq ({ · with priority := some priority }) }.record
    (.setPriority irq priority)

/-- Lets an interrupt through. -/
def enableIrq (board : Board) (irq : Irq) : Board :=
  { board with irqs := board.irqs.modify irq ({ · with enabled := true }) }.record (.enableIrq irq)

/-- Holds an interrupt back. -/
def disableIrq (board : Board) (irq : Irq) : Board :=
  { board with irqs := board.irqs.modify irq ({ · with enabled := false }) }.record
    (.disableIrq irq)

/-- Forgets a request that is waiting. -/
def clearPending (board : Board) (irq : Irq) : Board :=
  { board with irqs := board.irqs.modify irq ({ · with pending := false }) }.record
    (.clearPending irq)

/-- Raises an interrupt from software. -/
def setPending (board : Board) (irq : Irq) : Board :=
  { board with irqs := board.irqs.modify irq ({ · with pending := true }) }.record (.setPending irq)

/-- Sets the alarm to `micros` from now, in place of an earlier setting. -/
def armAlarm (board : Board) (micros : Nat) : Board :=
  { board with alarm := some micros }.record (.armAlarm micros)

/-- Switches the alarm off. -/
def cancelAlarm (board : Board) : Board :=
  { board with alarm := none }.record .cancelAlarm

/-- Waits without polling; the modelled clock stands still. -/
def delayMicros (board : Board) (micros : Nat) : Board := board.record (.delayMicros micros)

/-- Waits without polling, in nanoseconds. -/
def delayNanos (board : Board) (nanos : Nat) : Board := board.record (.delayNanos nanos)

end StatusDisplay.Board
