import StatusDisplay.Proofs.Board.Wiring
import StatusDisplay.Proofs.Engine.BringUp

/-!
# Which calls the engine makes

Where a step makes the same calls on every board, they are listed in their order; where the calls
depend on what the board answers, their kind is named: wiring, traffic, or addressing. Everything
that is said later about the trace or the settings of the board is read off these lists.
-/

namespace StatusDisplay

/-- Calls that move the opening of a transaction along. -/
def Call.isAddressing : Call → Bool
  | .status _ | .writeData _ | .acknowledgeAddress | .setEventIrq false => true
  | _ => false

/-- Whatever the event is, the bus master is asked for it first. -/
theorem Bus.exchange_onEvent (address : UInt8) (bus : Bus) : ∃ calls,
    Exchange bus.board (.status bus.board.status :: calls) (bus.onEvent address).board ∧
      calls.all Call.isAddressing = true := by
  have send (board : Board) (sent : Bool) : board.Makes Call.isAddressing
      (if sent then board.writeData (address <<< 1) else board) := by
    cases sent with
    | true => exact .of_exchange (.writeData board _) rfl
    | false => exact .refl board
  have acknowledge (board : Board) (acked : Bool) : board.Makes Call.isAddressing
      (if acked then board.acknowledgeAddress.setEventIrq false else board) := by
    have exchange : Exchange board [.acknowledgeAddress, .setEventIrq false]
        (board.acknowledgeAddress.setEventIrq false) := .commands _ _ rfl
    cases acked with
    | true => exact .of_exchange exchange rfl
    | false => exact .refl board
  obtain ⟨calls, exchange, addressing⟩ := (send _ _).trans (acknowledge _ _)
  exact ⟨calls, (Exchange.readStatus bus.board).append exchange, addressing⟩

theorem Bus.makes_onEvent (address : UInt8) (bus : Bus) :
    bus.board.Makes Call.isAddressing (bus.onEvent address).board := by
  obtain ⟨calls, exchange, addressing⟩ := bus.exchange_onEvent address
  exact .of_exchange exchange addressing

namespace Engine

variable (engine : Engine)

theorem makes_onBusEvent : engine.board.Makes Call.isAddressing engine.onBusEvent.board := by
  unfold onBusEvent
  split
  case h_1 controller _ => exact engine.bus.makes_onEvent controller.address
  case h_2 => exact .refl _

/-! ## Transfers -/

theorem exchange_acknowledged : Exchange engine.board [.stopTransfer] engine.acknowledged.board :=
  .single rfl

theorem exchange_startTransfer :
    Exchange engine.board
      [.startTransfer engine.payload.bytes, .armAlarm engine.watchdog.timeout]
      engine.startTransfer.board :=
  .commands _ _ rfl

theorem exchange_launch (payload : Payload) :
    Exchange engine.board
      [.setTransferRequests true, .startTransfer payload.bytes, .armAlarm engine.watchdog.timeout]
      (engine.launch payload).board :=
  .commands _ _ rfl

theorem exchange_openPanel :
    Exchange engine.board
      [.configure .fast, .setErrorIrq true, .setEventIrq true, .requestStart]
      engine.openPanel.board :=
  .commands _ _ rfl

/-- A panel is started behind its setup. -/
theorem exchange_launchPanel :
    Exchange engine.board
      [.configure .fast, .setErrorIrq true, .setEventIrq true, .requestStart,
        .setTransferRequests true,
        .startTransfer (Oled.setupPayload engine.config.panel engine.display.backlight).bytes,
        .armAlarm engine.watchdog.timeout]
      engine.launchPanel.board :=
  .commands _ _ rfl

theorem exchange_nextFrame :
    Exchange engine.board
      [.stopTransfer, .startTransfer engine.currentFrame.bytes, .armAlarm engine.watchdog.timeout]
      (engine.acknowledged.countFrame.setPayload engine.currentFrame).startTransfer.board :=
  .commands _ _ rfl

theorem exchange_nextRow (row : Fin Text.rowCount) (cursor : Oled.Cursor) :
    Exchange engine.board
      [.stopTransfer, .startTransfer (engine.currentRow row).bytes,
        .armAlarm engine.watchdog.timeout]
      ((engine.acknowledged.setPayload (engine.currentRow row)).setCursor
        cursor).startTransfer.board :=
  .commands _ _ rfl

/-- On a bus that has been closed the next transaction is opened and its opening sent. -/
theorem exchange_reopen (bus : Bus) :
    Exchange bus.board
      [.setEventIrq true, .requestStart,
        .startTransfer (Oled.openingPayload engine.display.backlight).bytes,
        .armAlarm engine.watchdog.timeout]
      (engine.reopen bus).startTransfer.board :=
  .commands _ _ rfl

/-! ## Bring-up -/

theorem makes_wake : ∃ calls,
    Exchange engine.board (.setPowered true :: calls) engine.wake.board ∧
      calls.all Call.isRelease = true := by
  obtain ⟨calls, exchange, release⟩ := (engine.board.setPowered true).makes_releaseLines
  exact ⟨calls, .cons rfl exchange, release⟩

/-- What holds of the supply and of wiring holds of all calls that wake the bus master. -/
theorem makes_wake_of_wiring {p : Call → Bool} (supply : p (.setPowered true) = true)
    (wiring : ∀ call, call.isWiring = true → p call = true) :
    engine.board.Makes p engine.wake.board := by
  obtain ⟨calls, exchange, release⟩ := engine.makes_wake
  refine .of_exchange exchange ?_
  rw [List.all_cons, supply, Call.all_mono release fun call h =>
    wiring call (call.isWiring_of_isRelease h)]
  rfl

theorem makes_checked : engine.wake.board.Makes Call.isWiring engine.checked.board :=
  engine.wake.board.makes_linesPulledUp

theorem exchange_attach :
    Exchange engine.board
      [.setLineMode .scl .busMaster, .setLineMode .sda .busMaster, .configure .standard]
      engine.attach.board :=
  .commands _ _ rfl

theorem exchange_adopt (controller : Controller) :
    Exchange engine.board
      [.setPriority .busEvent engine.config.irqPriority, .clearPending .busEvent,
        .setPriority .busError engine.config.irqPriority, .clearPending .busError,
        .setPriority .transferDone engine.config.irqPriority, .clearPending .transferDone,
        .setErrorIrq true, .stopTransfer, .enableIrq .busEvent, .enableIrq .busError,
        .enableIrq .transferDone, .armAlarm engine.watchdog.timeout]
      (engine.adopt controller).board :=
  .commands _ _ rfl

theorem exchange_rearm :
    Exchange engine.board [.armAlarm engine.watchdog.timeout] engine.rearm.board :=
  .single rfl

theorem exchange_shutDown :
    Exchange engine.board
      [.disableIrq .busEvent, .disableIrq .busError, .disableIrq .transferDone, .cancelAlarm,
        .stopTransfer, .disable, .setLineMode .scl .pullUpInput, .setLineMode .sda .pullUpInput,
        .setPowered false]
      engine.shutDown.board :=
  .commands _ _ rfl

/-! ## Bus errors -/

theorem exchange_noted :
    Exchange engine.board [.clearErrors engine.board.master.flags.errors] engine.noted.board :=
  .single rfl

theorem exchange_aborted :
    Exchange engine.board
      [.clearErrors engine.board.master.flags.errors, .reset, .stopTransfer, .cancelAlarm]
      engine.aborted.board :=
  (Exchange.clearErrors engine.board).append (.commands _ _ rfl)

end Engine

end StatusDisplay
