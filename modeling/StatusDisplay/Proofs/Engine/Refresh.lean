import StatusDisplay.Engine.Interrupt
import StatusDisplay.Proofs.Bus.Traffic
import StatusDisplay.Proofs.Payloads

/-!
# What the end of a transfer leads to

The streams of the engine fit into their payloads, so filling one never fails and each of the
engine's steps has a plain result. `TransferDone` lists the results of a finished transfer:
nothing is known, the next frame, the next row, a transaction opened again, or one that did not
close. What follows each of them is proved from this list alone.
-/

namespace StatusDisplay.Engine

variable {engine after : Engine}

/-! ## Steps of the bus -/

/-- The engine after steps of its bus that left `bus` behind. -/
def setBus (engine : Engine) (bus : Bus) : Engine := { engine with bus }

theorem tryBus_of_ok {ε α : Type} {steps : EStateM ε Bus α} {value : α} {bus : Bus}
    (h : steps engine.bus = .ok value bus) :
    engine.tryBus steps = (.ok value, engine.setBus bus) := by
  unfold tryBus EStateM.run
  rw [h]
  rfl

theorem tryBus_of_error {ε α : Type} {steps : EStateM ε Bus α} {error : ε} {bus : Bus}
    (h : steps engine.bus = .error error bus) :
    engine.tryBus steps = (.error error, engine.setBus bus) := by
  unfold tryBus EStateM.run
  rw [h]
  rfl

/-! ## Filling the payload -/

theorem setPayload_setPayload (engine : Engine) (first second : Payload) :
    (engine.setPayload first).setPayload second = engine.setPayload second := by
  have flag : (engine.overwritten || engine.board.transferActive || engine.board.transferActive) =
      (engine.overwritten || engine.board.transferActive) := by
    rw [Bool.or_assoc, Bool.or_self]
  show { engine.setPayload second with
    overwritten := engine.overwritten || engine.board.transferActive ||
      engine.board.transferActive } = engine.setPayload second
  rw [flag]
  rfl

/-- A payload that is filled while no transfer runs is not overwritten. -/
theorem setPayload_of_idle (payload : Payload) (idle : engine.board.transferActive = false) :
    engine.setPayload payload = { engine with payload } := by
  unfold setPayload
  rw [idle, Bool.or_false]

theorem load_eq (engine : Engine) {chunks : List Chunk} (payload : Payload)
    (h : payload.bytes = chunks.flatten) : engine.load chunks = .ok (engine.setPayload payload) := by
  have fits : chunks.flatten.length ≤ Payload.capacity := h ▸ payload.length_le
  have same : (⟨chunks.flatten, fits⟩ : Payload) = payload := Payload.ext h.symm
  rw [load_of_le engine fits, same]

theorem extend_eq (engine : Engine) {chunks : List Chunk} (payload : Payload)
    (h : payload.bytes = engine.payload.bytes ++ chunks.flatten) :
    engine.extend chunks = .ok (engine.setPayload payload) := by
  have fits : (engine.payload.bytes ++ chunks.flatten).length ≤ Payload.capacity :=
    h ▸ payload.length_le
  have same : (⟨engine.payload.bytes ++ chunks.flatten, fits⟩ : Payload) = payload :=
    Payload.ext h.symm
  rw [extend_of_le engine fits, same]

/-- The engine that has put an opening behind its payload, which makes `payload` of it. -/
theorem openTransaction_eq (engine : Engine) (payload : Payload)
    (h : payload.bytes = engine.payload.bytes ++ (Oled.opening engine.display.backlight).flatten) :
    engine.openTransaction =
      .ok (((engine.setPayload payload).setCursor .firstRow).modifyBus Bus.openAsync) := by
  unfold openTransaction
  rw [extend_eq engine payload h]
  rfl

/-! ## A finished transfer -/

/-- The engine that has acknowledged the end of its transfer. -/
def acknowledged (engine : Engine) : Engine := engine.modifyBoard Board.stopTransfer

/-- The frame of this moment. -/
def currentFrame (engine : Engine) : Payload :=
  Lcd.framePayload engine.display.text engine.display.backlight

/-- A row as it would be drawn at this moment. -/
def currentRow (engine : Engine) (row : Fin Text.rowCount) : Payload :=
  Oled.rowPayload engine.config.font (engine.display.text.rows.get row)

/-- The engine that has opened the next transaction on a bus whose last one is closed. -/
def reopen (engine : Engine) (bus : Bus) : Engine :=
  (((engine.setBus bus).setPayload (Oled.openingPayload engine.display.backlight)).setCursor
    .firstRow).modifyBus Bus.openAsync

/-- The results of a finished transfer. -/
inductive TransferDone (engine : Engine) : Engine → Prop where
  /-- Nothing is refreshed. -/
  | unknown : engine.mode = .unknown →
      TransferDone engine { engine.acknowledged with activity := .idle }
  /-- A character display gets its next frame. -/
  | frame {address : UInt8} : engine.mode = .character address →
      TransferDone engine
        (engine.acknowledged.countFrame.setPayload engine.currentFrame).startTransfer
  /-- A bitmap panel gets its next row. -/
  | row {address : UInt8} {cursor : Oled.Cursor} {row : Fin Text.rowCount} :
      engine.mode = .bitmap address cursor → cursor.row? = some row →
      TransferDone engine
        ((engine.acknowledged.setPayload (engine.currentRow row)).setCursor
          cursor.advance).startTransfer
  /-- The transaction of a bitmap panel is closed, and the next one is opened. -/
  | reopened {address : UInt8} {bus : Bus} : engine.mode = .bitmap address .reopen →
      Bus.close engine.acknowledged.bus = .ok () bus →
      TransferDone engine (engine.acknowledged.countFrame.reopen bus).startTransfer
  /-- The transaction does not close, so nothing more is sent. -/
  | notClosed {address : UInt8} {error : BusError} {bus : Bus} :
      engine.mode = .bitmap address .reopen →
      Bus.close engine.acknowledged.bus = .error error bus →
      TransferDone engine { engine.acknowledged.countFrame.setBus bus with activity := .idle }

/-! One lemma for each kind of display says which of the results are its own. -/

theorem TransferDone.of_unknown (h : engine.TransferDone after) (mode : engine.mode = .unknown) :
    after = { engine.acknowledged with activity := .idle } := by
  cases h with
  | unknown => rfl
  | frame other => rw [other] at mode; cases mode
  | row other => rw [other] at mode; cases mode
  | reopened other => rw [other] at mode; cases mode
  | notClosed other => rw [other] at mode; cases mode

/-- The end of a transfer on a character display counts a frame and starts the next one. -/
theorem TransferDone.of_character {address : UInt8} (h : engine.TransferDone after)
    (mode : engine.mode = .character address) :
    after = (engine.acknowledged.countFrame.setPayload engine.currentFrame).startTransfer := by
  cases h with
  | frame => rfl
  | unknown other => rw [other] at mode; cases mode
  | row other => rw [other] at mode; cases mode
  | reopened other => rw [other] at mode; cases mode
  | notClosed other => rw [other] at mode; cases mode

/--
The end of a transfer on a panel starts the next row; after both it closes the transaction, and is
back at the first row if that succeeds.
-/
theorem TransferDone.of_bitmap {address : UInt8} {cursor : Oled.Cursor}
    (h : engine.TransferDone after) (mode : engine.mode = .bitmap address cursor) :
    (∃ row, cursor.row? = some row ∧
      after = ((engine.acknowledged.setPayload (engine.currentRow row)).setCursor
        cursor.advance).startTransfer) ∨
      cursor = .reopen ∧ (after.mode = .bitmap address .firstRow ∨
        after.mode = .bitmap address .reopen ∧ after.activity ≠ .inFlight) := by
  cases h with
  | unknown other => rw [other] at mode; cases mode
  | frame other => rw [other] at mode; cases mode
  | @row address cursor row other next =>
    rw [other] at mode
    cases mode
    exact .inl ⟨row, next, rfl⟩
  | @reopened address bus other =>
    rw [other] at mode
    cases mode
    refine .inr ⟨rfl, .inl ?_⟩
    exact congrArg (Mode.withCursor · .firstRow) other
  | notClosed other =>
    rw [other] at mode
    cases mode
    exact .inr ⟨rfl, .inr ⟨other, Activity.noConfusion⟩⟩

theorem onTransferDone_of_more (h : engine.acknowledged.refill = .ok (true, after)) :
    engine.onTransferDone = .ok after.startTransfer := by
  unfold acknowledged at h
  unfold onTransferDone
  rw [h]
  rfl

theorem onTransferDone_of_none (h : engine.acknowledged.refill = .ok (false, after)) :
    engine.onTransferDone = .ok { after with activity := .idle } := by
  unfold acknowledged at h
  unfold onTransferDone
  rw [h]
  rfl

theorem refill_unknown (mode : engine.mode = .unknown) :
    engine.refill = .ok (false, engine) := by
  rw [refill, mode]
  rfl

theorem refill_character {address : UInt8} (mode : engine.mode = .character address) :
    engine.refill = .ok (true, engine.countFrame.setPayload engine.currentFrame) := by
  have filled := load_eq engine.countFrame engine.currentFrame rfl
  rw [refill, mode]
  exact congrArg (Except.bind · fun next => .ok (true, next)) filled

theorem refill_row {address : UInt8} {cursor : Oled.Cursor} {row : Fin Text.rowCount}
    (mode : engine.mode = .bitmap address cursor) (next : cursor.row? = some row) :
    engine.refill =
      .ok (true, (engine.setPayload (engine.currentRow row)).setCursor cursor.advance) := by
  have filled := load_eq engine (engine.currentRow row) rfl
  rw [refill, mode]
  show engine.refillBitmap cursor = _
  rw [refillBitmap, next]
  exact congrArg (Except.bind · fun next => .ok (true, next.setCursor cursor.advance)) filled

theorem refill_reopen {address : UInt8} {bus : Bus} (mode : engine.mode = .bitmap address .reopen)
    (closed : Bus.close engine.bus = .ok () bus) :
    engine.refill = .ok (true, engine.countFrame.reopen bus) := by
  have opened : ((engine.countFrame.setBus bus).setPayload .empty).openTransaction =
      .ok (engine.countFrame.reopen bus) := by
    rw [openTransaction_eq _ (Oled.openingPayload engine.display.backlight) rfl,
      setPayload_setPayload]
    rfl
  have tried : engine.countFrame.tryBus Bus.close = (.ok (), engine.countFrame.setBus bus) :=
    tryBus_of_ok closed
  rw [refill, mode]
  show engine.refillBitmap .reopen = _
  rw [refillBitmap, Oled.Cursor.row?, tried]
  exact congrArg (Except.bind · fun next => .ok (true, next)) opened

theorem refill_notClosed {address : UInt8} {error : BusError} {bus : Bus}
    (mode : engine.mode = .bitmap address .reopen)
    (failed : Bus.close engine.bus = .error error bus) :
    engine.refill = .ok (false, engine.countFrame.setBus bus) := by
  have tried : engine.countFrame.tryBus Bus.close =
      (.error error, engine.countFrame.setBus bus) := tryBus_of_error failed
  rw [refill, mode]
  show engine.refillBitmap .reopen = _
  rw [refillBitmap, Oled.Cursor.row?, tried]
  rfl

/-- A finished transfer has a result, and it is one of those listed. -/
theorem exists_onTransferDone (engine : Engine) :
    ∃ after, engine.onTransferDone = .ok after ∧ engine.TransferDone after := by
  cases mode : engine.mode with
  | unknown => exact ⟨_, onTransferDone_of_none (refill_unknown mode), .unknown mode⟩
  | character address => exact ⟨_, onTransferDone_of_more (refill_character mode), .frame mode⟩
  | bitmap address cursor =>
    cases next : cursor.row? with
    | some row => exact ⟨_, onTransferDone_of_more (refill_row mode next), .row mode next⟩
    | none =>
      rw [Oled.Cursor.row?_eq_none_iff] at next
      subst next
      cases closing : Bus.close engine.acknowledged.bus with
      | ok _ bus =>
        exact ⟨_, onTransferDone_of_more (refill_reopen mode closing), .reopened mode closing⟩
      | error error bus =>
        exact ⟨_, onTransferDone_of_none (refill_notClosed mode closing), .notClosed mode closing⟩

end StatusDisplay.Engine
