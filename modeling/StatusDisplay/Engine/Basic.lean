import StatusDisplay.Bus.Scan
import StatusDisplay.Bus.Release
import StatusDisplay.Display
import StatusDisplay.Payload
import StatusDisplay.Watchdog

/-!
# The refresh engine

The engine owns the board and keeps the display refreshed from interrupts: each finished transfer
makes it serialize the next part of the text and start the next transfer. Its steps are functions
from engine to engine; those that fill the payload can meet a `Defect`, the others cannot fail.

The transfer channel reads the payload where it lies, so a payload that changes under a running
transfer spoils what is sent. No step looks at that; `overwritten` records whether it happened.
-/

namespace StatusDisplay

/-- What the engine is doing. -/
inductive Activity where
  /-- No transfer is running. -/
  | idle
  /-- A transfer is on the bus. -/
  | inFlight
  /-- The last bring-up or transfer failed. -/
  | failed
  deriving DecidableEq, Repr, Inhabited

/-- How recovery has gone so far. -/
structure Statistics where
  /-- Recoveries attempted; the count wraps. -/
  recoveries : UInt32 := 0
  lastFailure : Option FailureKind := none
  deriving DecidableEq, Repr

/-- A driver on its board, with the display that it shares with the foreground. -/
structure Engine where
  config : Config
  display : Display
  bus : Bus
  watchdog : Watchdog
  payload : Payload := .empty
  /-- Whether the payload was ever changed while a transfer was reading it. -/
  overwritten : Bool := false
  mode : Mode := .unknown
  activity : Activity := .idle
  statistics : Statistics := {}
  deriving DecidableEq, Repr

namespace Engine

/-- An engine that has not touched the board yet; the configuration has to be valid. -/
def ofConfig (config : Config) (display : Display) (board : Board) : Except ConfigError Engine := do
  config.validate
  return {
    config, display
    bus := { board, timeout := config.busTimeout }
    watchdog := { timeout := config.watchdogTimeout } }

/-- The board under the engine. -/
def board (engine : Engine) : Board := engine.bus.board

/-- A step of the bus. -/
def modifyBus (engine : Engine) (f : Bus → Bus) : Engine := { engine with bus := f engine.bus }

/-- A step of the board. -/
def modifyBoard (engine : Engine) (f : Board → Board) : Engine := engine.modifyBus (·.modifyBoard f)

/-- A step of the board that has an answer. -/
def askBoard {α : Type} (engine : Engine) (f : Board → α × Board) : α × Engine :=
  let (answer, board) := f engine.board
  (answer, { engine with bus.board := board })

/-- Steps of the bus that may fail. -/
def tryBus {ε α : Type} (engine : Engine) (steps : EStateM ε Bus α) : Except ε α × Engine :=
  match steps.run engine.bus with
  | .ok value bus => (.ok value, { engine with bus })
  | .error error bus => (.error error, { engine with bus })

/-- Sets the watchdog to its full time. -/
def rearm (engine : Engine) : Engine :=
  let (watchdog, engine) := engine.askBoard engine.watchdog.rearm
  { engine with watchdog }

/-- Switches the watchdog off. -/
def cancelWatchdog (engine : Engine) : Engine :=
  let (watchdog, engine) := engine.askBoard engine.watchdog.cancel
  { engine with watchdog }

/-- Changes the payload. -/
def setPayload (engine : Engine) (payload : Payload) : Engine :=
  { engine with payload, overwritten := engine.overwritten || engine.board.transferActive }

/-- Fills the payload with `chunks` alone. -/
def load (engine : Engine) (chunks : List Chunk) : Except Defect Engine := do
  return engine.setPayload (← Payload.ofChunks chunks)

/-- Adds `chunks` to the payload. -/
def extend (engine : Engine) (chunks : List Chunk) : Except Defect Engine := do
  return engine.setPayload (← engine.payload.appendAll chunks)

/-- Moves the cursor of a bitmap panel. -/
def setCursor (engine : Engine) (cursor : Oled.Cursor) : Engine :=
  { engine with mode := engine.mode.withCursor cursor }

/-- Hands the payload to the transfer channel, with the watchdog running. -/
def startTransfer (engine : Engine) : Engine :=
  { (engine.modifyBoard (·.startTransfer engine.payload.bytes)).rearm with activity := .inFlight }

/-- Records a failure. -/
def recordFailure (engine : Engine) (kind : FailureKind) : Engine :=
  { engine with statistics.lastFailure := some kind, activity := .failed }

/--
Adds the opening of a transaction to the payload and requests its start condition. The panel is
back at its first row then.
-/
def openTransaction (engine : Engine) : Except Defect Engine := do
  let engine ← engine.extend (Oled.opening engine.display.backlight)
  return (engine.setCursor .firstRow).modifyBus Bus.openAsync

theorem load_of_le (engine : Engine) {chunks : List Chunk}
    (h : chunks.flatten.length ≤ Payload.capacity) :
    engine.load chunks = .ok (engine.setPayload ⟨chunks.flatten, h⟩) := by
  simp [load, Payload.ofChunks_of_le h, bind, Except.bind, pure, Except.pure]

theorem extend_of_le (engine : Engine) {chunks : List Chunk}
    (h : (engine.payload.bytes ++ chunks.flatten).length ≤ Payload.capacity) :
    engine.extend chunks =
      .ok (engine.setPayload ⟨engine.payload.bytes ++ chunks.flatten, h⟩) := by
  simp [extend, Payload.appendAll_of_le h, bind, Except.bind, pure, Except.pure]

end Engine

end StatusDisplay
