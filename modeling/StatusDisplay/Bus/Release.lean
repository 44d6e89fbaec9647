import StatusDisplay.Board.Lines
import StatusDisplay.Board.Peripherals

/-!
# Freeing the lines

A peer that was reset within a transfer may hold the data line low while it waits for one more
clock pulse. Before the bus master takes the lines, they are driven by hand: one low pulse on the
clock line lets the peer finish, and the data line rising while the clock is high makes a stop
condition.
-/

namespace StatusDisplay

/-- What became of the lines. -/
inductive Release where
  /-- Nobody was found waiting with the data line held. -/
  | idle
  /-- The data line was held and is free now. -/
  | released
  /-- A line is still low after the stop condition. -/
  | stillHeld
  deriving DecidableEq, Repr

namespace Board

/-- Time for a line to settle, in microseconds. -/
def settleMicros : Nat := 10

/-- Gives the lines time to settle. -/
def settle (board : Board) : Board := board.delayMicros settleMicros

/-- Connects both lines in the same way. -/
def setLineModes (board : Board) (mode : LineMode) : Board :=
  (board.setLineMode .scl mode).setLineMode .sda mode

/-- Hands the lines to the bus master. -/
def attachLines (board : Board) : Board := board.setLineModes .busMaster

/-- Leaves the lines as inputs that nobody drives. -/
def parkLines (board : Board) : Board := board.setLineModes .pullUpInput

/--
Samples the clock line and, only if that is high, the data line; the level is the data line's.
-/
def sampleData (board : Board) : Option Bool × Board :=
  let next := board.sample .scl
  if board.level .scl then (some (next.level .sda), next.sample .sda) else (none, next)

/-- Makes one clock pulse with the data line low, then a stop condition. -/
def stopByHand (board : Board) : Board :=
  let low := ((board.pullLow .sda).pullLow .scl).settle
  ((low.release .scl).settle.release .sda).settle

/-- Frees a data line that a waiting peer holds. -/
def releaseLines (board : Board) : Release × Board :=
  let released := ((board.setLineModes .openDrain).release .scl).release .sda
  match released.settle.sampleData with
  | (some false, board) =>
    match board.stopByHand.sampleData with
    | (some true, board) => (.released, board)
    | (_, board) => (.stillHeld, board)
  | (_, board) => (.idle, board)

/-- Whether both lines are pulled up from outside; weak pull-downs lose against a real pull-up. -/
def linesPulledUp (board : Board) : Bool × Board :=
  match (board.setLineModes .pullDownInput).settle.sampleData with
  | (some sda, board) => (sda, board)
  | (none, board) => (false, board)

end Board

end StatusDisplay
