import StatusDisplay.Board.Basic

/-!
# The bus lines by hand

A line is released or pulled low, and its level is sampled. A released line is high unless
something else holds it.
-/

namespace StatusDisplay.Board

/-- Connects a line in another way. -/
def setLineMode (board : Board) (line : Line) (mode : LineMode) : Board :=
  (board.modifyLine line ({ · with mode })).record (.setLineMode line mode)

/-- Lets go of a line. -/
def release (board : Board) (line : Line) : Board :=
  (board.modifyLine line ({ · with drivenLow := false })).record (.release line)

/-- Pulls a line low. A pulse on the clock line makes a waiting peer let go of the data line. -/
def pullLow (board : Board) (line : Line) : Board :=
  let board := board.modifyLine line ({ · with drivenLow := true })
  match line with
  | .scl => { board with world.sdaHeld := false }.record (.pullLow line)
  | .sda => board.record (.pullLow line)

/-- Releases a line or pulls it low. -/
def setLevel (board : Board) (line : Line) (high : Bool) : Board :=
  if high then board.release line else board.pullLow line

/-- The level of a line when nothing is laid down for the sample. -/
def ownLevel (board : Board) (line : Line) : Bool :=
  let state := board.line line
  let pulledLow := state.drivenLow && state.mode == .openDrain
  let held := match line with
    | .scl => board.world.sclShorted
    | .sda => board.world.sdaShorted || board.world.sdaHeld
  let sagging := board.world.floating && state.mode == .pullDownInput
  !pulledLow && !held && !sagging

/-- Whether the next sample of a line finds it high. -/
def level (board : Board) : Line → Bool
  | .scl => board.world.sclLevels.headD (board.ownLevel .scl)
  | .sda => board.world.sdaLevels.headD (board.ownLevel .sda)

/-- The board after a sample of a line. -/
def sample (board : Board) : Line → Board
  | .scl =>
    { board with world.sclLevels := board.world.sclLevels.tail }.record
      (.sample .scl (board.level .scl))
  | .sda =>
    { board with world.sdaLevels := board.world.sdaLevels.tail }.record
      (.sample .sda (board.level .sda))

end StatusDisplay.Board
