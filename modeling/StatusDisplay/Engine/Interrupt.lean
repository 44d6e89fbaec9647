import StatusDisplay.Engine.BringUp

/-!
# Interrupts

The three interrupts of the engine. The end of a transfer starts the next one; a bus event moves
the opening of a transaction along; a bus error, or a watchdog that ran out, brings the display up
again.
-/

namespace StatusDisplay.Engine

/-- Counts a whole frame. -/
def countFrame (engine : Engine) : Engine :=
  { engine with display := engine.display.frameCompleted }

/--
Serializes the next part of a bitmap frame; the answer says whether there is anything to send. A
row comes from the text of this moment; after both rows the transaction is closed and opened again.
If it does not close, nothing is sent and the error flags stay for the error interrupt.
-/
def refillBitmap (engine : Engine) (cursor : Oled.Cursor) : Except Defect (Bool × Engine) :=
  match cursor.row? with
  | some row => do
    let engine ← engine.load (Oled.rowChunks engine.config.font engine.display.text.rows[row])
    return (true, engine.setCursor cursor.advance)
  | none =>
    match engine.countFrame.tryBus Bus.close with
    | (.error _, engine) => return (false, engine)
    | (.ok (), engine) => return (true, ← (engine.setPayload .empty).openTransaction)

/-- Serializes the next part of the refresh; the answer says whether there is anything to send. -/
def refill (engine : Engine) : Except Defect (Bool × Engine) :=
  match engine.mode with
  | .unknown => return (false, engine)
  | .character _ => do
    let engine := engine.countFrame
    return (true, ← engine.load (Lcd.frame engine.display.text engine.display.backlight))
  | .bitmap _ cursor => engine.refillBitmap cursor

/-- A transfer is complete. -/
def onTransferDone (engine : Engine) : Except Defect Engine := do
  let (more, engine) ← (engine.modifyBoard Board.stopTransfer).refill
  return if more then engine.startTransfer else { engine with activity := .idle }

/-- A start condition went out, or an address was acknowledged. -/
def onBusEvent (engine : Engine) : Engine :=
  match engine.mode.controller? with
  | some controller => engine.modifyBus (Bus.onEvent controller.address)
  | none => engine

/-- The kind under which a bus error is recorded: a fault if error flags are set, else a stall. -/
def errorKind (engine : Engine) : FailureKind :=
  if engine.board.master.flags.hasErrors then .busFault else .transferStall

/-- The bus master met an error, or the watchdog ran out. Without a display nothing is recovered. -/
def onBusError (engine : Engine) : Except Defect Engine :=
  let failed := (engine.modifyBoard Board.clearErrors).recordFailure engine.errorKind
  match failed.mode with
  | .unknown => return failed
  | _ => do
    let counted := { failed with statistics.recoveries := failed.statistics.recoveries + 1 }
    let stopped := (counted.modifyBoard fun board => board.reset.stopTransfer).cancelWatchdog
    return (← stopped.bringUp).2

/-- What an interrupt does. -/
def handle : Irq → Engine → Except Defect Engine
  | .busEvent, engine => return engine.onBusEvent
  | .busError, engine => engine.onBusError
  | .transferDone, engine => engine.onTransferDone

/-- Delivers bus events for as long as the bus master asks for them, at most `limit`. -/
def settleEvents (limit : Nat) (engine : Engine) : Engine :=
  match limit with
  | 0 => engine
  | limit + 1 =>
    if engine.board.master.eventIrq then settleEvents limit engine.onBusEvent else engine

end StatusDisplay.Engine
