import StatusDisplay.Board.Master
import StatusDisplay.Board.Peripherals
import StatusDisplay.Failure
import StatusDisplay.Lcd.Stream

/-!
# The bus

The board with a bound on every wait. A wait polls until it sees what it waits for, an error flag,
or the end of its time; running out of time marks the bus dead, which is how a bus that is stuck
differs from a peer that does not answer. Waits end because each poll takes time on the board's
clock.
-/

namespace StatusDisplay

/-- A board, and what the driver knows about the health of its bus. -/
structure Bus where
  board : Board := {}
  /-- The longest wait, in microseconds. -/
  timeout : Nat
  /-- Cleared by the first wait that runs out of time. -/
  alive : Bool := true
  deriving DecidableEq, Repr

/-- Steps on the bus that may fail; what was done before the failure stays done. -/
abbrev BusM := EStateM BusError Bus

namespace Bus

/-- A step of the board. -/
def modifyBoard (bus : Bus) (f : Board → Board) : Bus := { bus with board := f bus.board }

/-- A step of the board, among steps that may fail. -/
def perform (f : Board → Board) : BusM Unit := modify (·.modifyBoard f)

/-- Takes the bus for alive again. -/
def revive (bus : Bus) : Bus := { bus with alive := true }

/-- The bus after one status read. -/
def readStatus (bus : Bus) : Bus := bus.modifyBoard Board.readStatus

/-- The bus after a wait that found an error flag. -/
def faulted (bus : Bus) (clears : Bool) : Bus :=
  if clears then bus.modifyBoard Board.clearErrors else bus

/-- The bus after a wait that ran out of time. -/
def died (bus : Bus) : Bus := { bus with alive := false }

/--
Polls for every flag of `flags`, counting the time from `start`. A word that shows them all ends
the wait even if it shows errors too. Error flags are removed only if `clears` is set.
-/
def poll (flags : Status) (clears : Bool) (start : Nat) (bus : Bus) :
    EStateM.Result BusError Bus Unit :=
  if bus.board.status.contains flags then .ok () bus.readStatus
  else if bus.board.status.hasErrors then .error .fault (bus.readStatus.faulted clears)
  else if bus.timeout < bus.readStatus.board.clock - start then .error .timeout bus.readStatus.died
  else poll flags clears start bus.readStatus
termination_by start + bus.timeout + 1 - bus.board.clock
decreasing_by
  simp only [readStatus, modifyBoard, Board.clock_readStatus, Board.pollMicros] at *
  omega

/-- The bus after one poll for the end of a stop condition. -/
def readStop (bus : Bus) : Bus := bus.modifyBoard Board.pollStop

/-- Polls for the end of a stop condition, counting the time from `start`. -/
def pollStop (start : Nat) (bus : Bus) : EStateM.Result BusError Bus Unit :=
  if bus.board.stopPending then
    if bus.timeout < bus.readStop.board.clock - start then .error .timeout bus.readStop.died
    else pollStop start bus.readStop
  else .ok () bus.readStop
termination_by start + bus.timeout + 1 - bus.board.clock
decreasing_by
  rename_i pending _
  simp only [readStop, modifyBoard, Board.clock_pollStop pending, Board.pollMicros] at *
  omega

/-- Waits for every flag of `flags`; an error flag ends the wait and is removed. -/
def waitFor (flags : Status) : BusM Unit := fun bus => bus.poll flags true bus.board.clock

/-- Requests a stop condition and waits until it is out. -/
def stop : BusM Unit := do
  perform Board.requestStop
  fun bus => bus.pollStop bus.board.clock

/-- Opens a transaction for writing to `address`. -/
def start (address : UInt8) : BusM Unit := do
  perform Board.requestStart
  waitFor .startSent
  perform (·.writeData (address <<< 1))
  waitFor .addressAcked
  perform Board.acknowledgeAddress

/-- Sends one byte and waits until it has left. -/
def sendByte (value : UInt8) : BusM Unit := do
  perform (·.writeData value)
  waitFor .byteTransferred

/-- Clocks a half byte into a character display. -/
def sendStrobe (value : UInt8) : BusM Unit := (Lcd.strobe value).forM sendByte

/--
Ends the transaction once the last byte of a transfer has left. Error flags stay set, for the
error interrupt to find.
-/
def close : BusM Unit := do
  fun bus => bus.poll .byteTransferred false bus.board.clock
  stop

/-- Whether a peer acknowledges at `address`. It is sent one zero byte, which no display minds. -/
def probe (address : UInt8) (bus : Bus) : Bool × Bus :=
  match (do start address; sendByte 0; stop : BusM Unit).run bus with
  | .ok _ bus => (true, bus)
  | .error _ bus => (false, bus)

/-- Opens a transaction to `address` and takes a character display through its handshake. -/
def handshake (address : UInt8) : BusM Unit := do
  start address
  Lcd.handshake.forM fun step => do
    sendStrobe step.value
    if 0 < step.settleMicros then perform (·.delayMicros step.settleMicros)

/-- Requests a start condition and leaves the rest of the opening to the event interrupt. -/
def openAsync (bus : Bus) : Bus :=
  bus.modifyBoard fun board => (board.setEventIrq true).requestStart

/--
What the event interrupt does for a transaction to `address`: it sends the address after the start
condition, and after the acknowledgement it switches itself off.
-/
def onEvent (address : UInt8) (bus : Bus) : Bus :=
  let word := bus.board.status
  bus.modifyBoard fun board =>
    let board := board.readStatus
    let board := if word.contains .startSent then board.writeData (address <<< 1) else board
    if word.contains .addressAcked then board.acknowledgeAddress.setEventIrq false else board

end Bus

end StatusDisplay
