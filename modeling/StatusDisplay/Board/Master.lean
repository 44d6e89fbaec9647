import StatusDisplay.Board.Basic

/-!
# Operations of the bus master

Single steps of a transaction; none of them waits. A status read and a poll that finds a stop
condition unfinished take 50 microseconds each, everything else takes no time. The clock lemmas at
the end are what makes every wait finite.
-/

namespace StatusDisplay.Board

/-- Time that one poll takes, in microseconds. -/
def pollMicros : Nat := 50

/-- Switches the power supply of the bus master. -/
def setPowered (board : Board) (on : Bool) : Board :=
  { board with master.powered := on }.record (.setPowered on)

/-- Sets the speed and enables the bus master; its interrupts and transfer requests are off then. -/
def configure (board : Board) (speed : Speed) : Board :=
  { board with
    master.enabled := true
    master.eventIrq := false
    master.errorIrq := false
    master.transferRequests := false }.record (.configure speed)

/-- Takes the bus master off the lines; its settings stay. -/
def disable (board : Board) : Board :=
  { board with master.enabled := false }.record .disable

/-- Puts the bus master back to its initial state; only its power supply stays. -/
def reset (board : Board) : Board :=
  { board with master := { powered := board.master.powered } }.record .reset

/-- The flags that the bus master shows by itself. -/
def ownStatus (board : Board) : Status :=
  if board.master.phase = .data ∧ ¬ board.world.stuck then
    if board.world.holdBytes then board.master.flags ||| Status.dataEmpty
    else board.master.flags ||| Status.dataEmpty ||| Status.byteTransferred
  else board.master.flags

/-- The word that the next status read returns. -/
def status (board : Board) : Status := board.world.statusWords.headD board.ownStatus

/-- The board after a status read. -/
def readStatus (board : Board) : Board :=
  { board with
    clock := board.clock + pollMicros
    world.statusWords := board.world.statusWords.tail }.record (.status board.status)

/-- Removes the error flags; they are `board.master.flags.errors`. -/
def clearErrors (board : Board) : Board :=
  { board with master.flags := board.master.flags.without .errorFlags }.record
    (.clearErrors board.master.flags.errors)

/-- Asks for a start condition; on a stuck bus nothing comes of it. -/
def requestStart (board : Board) : Board :=
  if board.world.stuck then board.record .requestStart
  else
    { board with
      master.flags := board.master.flags ||| Status.startSent
      master.phase := .started }.record .requestStart

/-- Asks for a stop condition, which ends the transaction. -/
def requestStop (board : Board) : Board :=
  { board with master.phase := .idle }.record .requestStop

/-- Whether the next poll finds a stop condition unfinished. -/
def stopPending (board : Board) : Bool := 0 < board.world.stopBusy

/-- The board after a poll for the end of a stop condition. -/
def pollStop (board : Board) : Board :=
  if board.stopPending then
    { board with
      clock := board.clock + pollMicros
      world.stopBusy := board.world.stopBusy - 1 }.record (.stopPending true)
  else board.record (.stopPending false)

/-- Sends an address byte: a peer with that address acknowledges, or nobody does. -/
def sendAddress (board : Board) (byte : UInt8) : Board :=
  let address := addressOf byte
  let flags := board.master.flags.without .startSent
  let wire := { board.wire with addressBytes := byte :: board.wire.addressBytes }
  if board.world.devices.contains address then
    { board with
      master.flags := flags ||| Status.addressAcked
      master.phase := .addressed
      wire := { wire with acknowledged := address :: wire.acknowledged } }
  else
    { board with
      master.flags := flags ||| Status.ackFailure
      master.phase := .idle
      wire }

/-- Writes the data register. What becomes of the byte depends on the phase. -/
def writeData (board : Board) (byte : UInt8) : Board :=
  match board.master.phase with
  | .started => (board.sendAddress byte).record (.writeData byte)
  | .data => { board with wire.dataBytes := byte :: board.wire.dataBytes }.record (.writeData byte)
  | .idle | .addressed => board.record (.writeData byte)

/-- Goes on from a peer's acknowledgement to the data bytes. -/
def acknowledgeAddress (board : Board) : Board :=
  { board with
    master.flags := board.master.flags.without .addressAcked
    master.phase := .data }.record .acknowledgeAddress

/-- Lets bus events raise their interrupt. -/
def setEventIrq (board : Board) (on : Bool) : Board :=
  { board with master.eventIrq := on }.record (.setEventIrq on)

/-- Lets errors raise their interrupt. -/
def setErrorIrq (board : Board) (on : Bool) : Board :=
  { board with master.errorIrq := on }.record (.setErrorIrq on)

/-- Lets the bus master ask the transfer channel for data bytes. -/
def setTransferRequests (board : Board) (on : Bool) : Board :=
  { board with master.transferRequests := on }.record (.setTransferRequests on)

@[simp] theorem clock_readStatus (board : Board) :
    board.readStatus.clock = board.clock + pollMicros := rfl

theorem clock_pollStop {board : Board} (h : board.stopPending = true) :
    board.pollStop.clock = board.clock + pollMicros := by
  simp [pollStop, h, record]

end StatusDisplay.Board
