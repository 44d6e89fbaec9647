import StatusDisplay.Proofs.Run.Openings
import StatusDisplay.Proofs.Run.Standing
import StatusDisplay.Proofs.Sync.Bitmap

/-!
# What a bitmap panel counts

A pass over a bitmap panel is two rows. Behind them the transaction is closed, and the next one is
opened at the first row. The end of a transfer counts at this point and nowhere else, but it counts
before it closes. So the counter tells the passes that were closed as long as closing succeeds; a
transaction that does not close is counted all the same, with nothing started, and it is counted
again by every further end of a transfer.
-/

namespace StatusDisplay

namespace Engine

variable {engine after : Engine} {calls : List Call}

/-- A row is started, and the cursor passes it. -/
structure StartsRow (engine : Engine) (cursor : Oled.Cursor) (calls : List Call) (after : Engine) :
    Prop where
  calls : ∃ row micros, cursor.row? = some row ∧
    calls = [.stopTransfer, .startTransfer (engine.currentRow row).bytes, .armAlarm micros]
  cursor : after.mode.cursor? = some cursor.advance
  activity : after.activity = .inFlight

/--
The transaction is closed: its last byte was seen to leave, and the stop condition came out. Then
the next one is opened, and its opening started, with the cursor back at the first row.
-/
structure Reopens (engine : Engine) (calls : List Call) (after : Engine) : Prop where
  calls : ∃ closing micros, Bus.Closes closing ∧
    calls = (.stopTransfer :: closing) ++
      [.setEventIrq true, .requestStart,
        .startTransfer (Oled.openingPayload engine.display.backlight).bytes, .armAlarm micros]
  cursor : after.mode.cursor? = some .firstRow
  activity : after.activity = .inFlight

/-- The transaction does not close, and nothing is started; the cursor stays where it is. -/
structure Unclosed (engine : Engine) (calls : List Call) (after : Engine) : Prop where
  close : ∃ error bus, Bus.close engine.acknowledged.bus = .error error bus
  calls : calls.all Call.addsNothing = true
  mode : after.mode = engine.mode
  activity : after.activity = .idle

theorem Reopens.not_unclosed (h : engine.Reopens calls after) : ¬ engine.Unclosed calls after := by
  intro unclosed
  have running := h.activity
  rw [unclosed.activity] at running
  cases running

theorem StartsRow.not_reopens {cursor : Oled.Cursor} (h : engine.StartsRow cursor calls after) :
    ¬ engine.Reopens calls after := by
  intro reopens
  have moved := h.cursor.symm.trans reopens.cursor
  cases cursor <;> cases moved

/-- The end of a transfer of a panel, by where the cursor stands. -/
theorem TransferDone.pass {address : UInt8} {cursor : Oled.Cursor} (h : engine.TransferDone after)
    (mode : engine.mode = .bitmap address cursor) : ∃ calls,
    Exchange engine.board calls after.board ∧
      (cursor ≠ .reopen ∧ after.display = engine.display ∧ engine.StartsRow cursor calls after ∨
        cursor = .reopen ∧ after.display = engine.display.frameCompleted ∧
          (engine.Reopens calls after ∨ engine.Unclosed calls after)) := by
  have stopped := engine.exchange_acknowledged
  have cursor? := congrArg Mode.cursor? mode
  cases h with
  | unknown other => rw [other] at mode; cases mode
  | frame other => rw [other] at mode; cases mode
  | @row _ _ row other next =>
    rw [other] at mode
    cases mode
    have notLast : cursor ≠ .reopen := by
      rintro rfl
      cases next
    have moved : (engine.mode.withCursor cursor.advance).cursor? = some cursor.advance := by
      rw [other]
      rfl
    exact ⟨_, engine.exchange_nextRow row cursor.advance,
      .inl ⟨notLast, rfl, ⟨row, _, next, rfl⟩, moved, rfl⟩⟩
  | @reopened _ bus other closed =>
    rw [other] at mode
    cases mode
    obtain ⟨closing, exchange, closes⟩ := Bus.leads_close.of_ok closed
    have opened := engine.acknowledged.countFrame.exchange_reopen bus
    have moved : (engine.mode.withCursor .firstRow).cursor? = some .firstRow := by
      rw [other]
      rfl
    exact ⟨_, (stopped.append exchange).append opened,
      .inr ⟨rfl, rfl, .inl ⟨⟨closing, _, closes, rfl⟩, moved, rfl⟩⟩⟩
  | @notClosed _ error bus other failed =>
    rw [other] at mode
    cases mode
    obtain ⟨closing, exchange, adds⟩ := Bus.leads_close.of_error failed
    exact ⟨_, stopped.append exchange,
      .inr ⟨rfl, rfl, .inr ⟨⟨error, bus, failed⟩, adds, rfl, rfl⟩⟩⟩

/-- Only the end of a transfer counts, as long as the display is known. -/
theorem Stepped.refreshCount_eq {event : Event} {controller : Controller}
    (stepped : engine.Stepped event after) (known : engine.mode.controller? = some controller)
    (other : event ≠ .interrupt .transferDone) :
    after.display.refreshCount = engine.display.refreshCount := by
  cases stepped with
  | broughtUp result => rw [(result.restarted known).display]
  | busEvent => rw [(Frame.onBusEvent engine).display]
  | recovered result => rw [(result.restarted known).display]
  | transferDone => exact absurd rfl other
  | world => rfl
  | foreground _ same => exact same

end Engine

/--
**The counter counts the closed passes, but it also counts a pass that does not close.** On a bitmap
panel only the end of a transfer counts, and only behind both rows. It then closes the transaction
and starts the opening of the next one, or, after a fault or a timeout, starts nothing; it has
counted in either case. So the counter grows exactly if a transaction was closed and opened again,
unless this is the end of a pass and the close fails.
-/
theorem counts_iff_reopens {engine : Engine} {address : UInt8} {cursor : Oled.Cursor}
    (mode : engine.mode = .bitmap address cursor) :
    (∀ event after, event ≠ .interrupt .transferDone → engine.step event = .ok after →
      after.display.refreshCount = engine.display.refreshCount) ∧
    ∃ calls after, engine.onTransferDone = .ok after ∧
      Exchange engine.board calls after.board ∧
      after.display.refreshCount =
        (if cursor = .reopen then engine.display.refreshCount + 1
          else engine.display.refreshCount) ∧
      (cursor ≠ .reopen → engine.StartsRow cursor calls after) ∧
      (cursor = .reopen → engine.Reopens calls after ∨ engine.Unclosed calls after) ∧
      ((after.display.refreshCount = engine.display.refreshCount + 1 ↔
          engine.Reopens calls after) ↔
        ¬ (cursor = .reopen ∧ engine.Unclosed calls after)) := by
  have known : engine.mode.controller? = some (.bitmap address) := congrArg Mode.controller? mode
  have uncounted : engine.display.refreshCount ≠ engine.display.refreshCount + 1 := by simp
  refine ⟨fun event after other taken => ?_, ?_⟩
  · have stepped : engine.Stepped event after := Step.stepped ⟨engine, event, after, taken⟩
    exact stepped.refreshCount_eq known other
  obtain ⟨after, taken, done⟩ := engine.exists_onTransferDone
  obtain ⟨calls, exchange, ⟨early, display, row⟩ | ⟨rfl, display, closes⟩⟩ := done.pass mode
  · refine ⟨calls, after, taken, exchange, ?_, fun _ => row, fun last => absurd last early, ?_⟩
    · rw [if_neg early, display]
    · rw [display]
      exact iff_of_true (iff_of_false uncounted row.not_reopens) fun last => early last.1
  · have counted : after.display.refreshCount = engine.display.refreshCount + 1 :=
      congrArg Display.refreshCount display
    refine ⟨calls, after, taken, exchange, counted, nofun, fun _ => closes, ?_⟩
    obtain reopens | unclosed := closes
    · exact iff_of_true (iff_of_true counted reopens) fun last => reopens.not_unclosed last.2
    · refine iff_of_false (fun same => ?_) fun closed => closed ⟨rfl, unclosed⟩
      exact (same.1 counted).not_unclosed unclosed

/-- A panel without faults, both of whose rows are out. -/
def passedPanel : Engine := greetedPanel.nextAll (panelFrame.take 4)

theorem reachable_passedPanel : Reachable passedPanel :=
  have greeted : Reachable greetedPanel :=
    ⟨{}, {}, { devices := [0x3c] }, _, _, rfl, run_steps _ _⟩
  greeted.of_run (run_steps _ _)

/-- A pass that closes is counted once, and the next transaction is opened. -/
theorem counts_iff_reopens_passed : passedPanel.mode = .bitmap 0x3c .reopen ∧
    ∃ calls after, passedPanel.onTransferDone = .ok after ∧
      Exchange passedPanel.board calls after.board ∧ passedPanel.Reopens calls after ∧
        after.display.refreshCount = 1 := by
  have mode : passedPanel.mode = .bitmap 0x3c .reopen := by decide +kernel
  obtain ⟨_, calls, after, taken, exchange, counted, _, closes, _⟩ := counts_iff_reopens mode
  have next : passedPanel.onTransferDone = .ok (passedPanel.next (.interrupt .transferDone)) :=
    passedPanel.step_eq_next (.interrupt .transferDone)
  obtain rfl : after = passedPanel.next (.interrupt .transferDone) :=
    Except.ok.inj (taken.symm.trans next)
  refine ⟨mode, calls, _, taken, exchange, ?_, ?_⟩
  · refine (closes rfl).resolve_right fun unclosed => ?_
    have running : (passedPanel.next (.interrupt .transferDone)).activity = .inFlight := by
      decide +kernel
    rw [unclosed.activity] at running
    cases running
  · rw [counted]
    decide +kernel

/-- A panel both of whose rows are out, but the last byte does not leave and a fault is flagged. -/
def faultedPanel : Engine :=
  passedPanel.next (.world { devices := [0x3c], holdBytes := true } .busError)

/--
**A pass that does not close is counted.** The close finds the fault, so nothing is started and the
driver is idle, with the cursor still behind both rows; yet the counter has grown.
-/
theorem not_counts_iff_reopens : ¬ ∀ (engine after : Engine) (address : UInt8)
    (cursor : Oled.Cursor) (calls : List Call), Reachable engine →
      engine.mode = .bitmap address cursor → engine.onTransferDone = .ok after →
        Exchange engine.board calls after.board →
          (after.display.refreshCount = engine.display.refreshCount + 1 ↔
            engine.Reopens calls after) := by
  intro promise
  have mode : faultedPanel.mode = .bitmap 0x3c .reopen := by decide +kernel
  have taken : faultedPanel.onTransferDone = .ok (faultedPanel.next (.interrupt .transferDone)) :=
    faultedPanel.step_eq_next (.interrupt .transferDone)
  obtain ⟨after, taken', done⟩ := faultedPanel.exists_onTransferDone
  obtain rfl : after = faultedPanel.next (.interrupt .transferDone) :=
    Except.ok.inj (taken'.symm.trans taken)
  obtain ⟨calls, exchange, _⟩ := done.pass mode
  have counted : (faultedPanel.next (.interrupt .transferDone)).display.refreshCount =
      faultedPanel.display.refreshCount + 1 := by decide +kernel
  have idle : (faultedPanel.next (.interrupt .transferDone)).activity = .idle := by decide +kernel
  have reachable : Reachable faultedPanel :=
    reachable_passedPanel.of_run
      (run_steps passedPanel [.world { devices := [0x3c], holdBytes := true } .busError])
  have reopens := (promise _ _ _ _ calls reachable mode taken exchange).1 counted
  have running := reopens.activity
  rw [idle] at running
  cases running

end StatusDisplay
