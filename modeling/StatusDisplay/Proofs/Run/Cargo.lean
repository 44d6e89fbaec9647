import StatusDisplay.Proofs.Engine.Transfers
import StatusDisplay.Proofs.Run.Timeline

/-!
# What the transfers of a run carry

The driver sends five things: the setup of a display of either kind, a frame of a character display,
a row of a bitmap panel, and the opening of a transaction. A step of a run starts at most one
transfer (`Step.delivers`), and the transfer carries exactly one of the five, serialized from the
text and the backlight that the step finds. So nothing of an earlier payload is sent again, and no
transfer speaks to both kinds of display. None of the streams is longer than a payload, which is why
no event meets a defect.
-/

namespace StatusDisplay

/-- What a transfer can carry. -/
inductive Cargo where
  /-- The setup of a character display. -/
  | setup
  /-- The whole text for a character display. -/
  | frame
  /-- The setup of a bitmap panel, with the opening of its first transaction. -/
  | panelSetup
  /-- A text row for a bitmap panel. -/
  | row (row : Fin Text.rowCount)
  /-- The opening of a transaction alone. -/
  | opening
  deriving DecidableEq, Repr

/-- Bytes of a cargo. -/
def Cargo.length : Cargo → Nat
  | setup => 24
  | frame => 204
  | panelSetup => 63
  | row _ => 256
  | opening => 19

theorem Cargo.length_pos (cargo : Cargo) : 0 < cargo.length := by
  cases cargo <;> exact Nat.succ_pos _

/-- The first cargo of a display. -/
def Cargo.setupOf : Controller → Cargo
  | .character _ => setup
  | .bitmap _ => panelSetup

/-! ## Within the bounds -/

/-- The row that a cursor names is on the glass. -/
theorem Text.Grid.row_of_cursor (grid : Text.Grid) {cursor : Oled.Cursor}
    {row : Fin Text.rowCount} (next : cursor.row? = some row) :
    grid.row cursor.value = .ok (grid.rows.get row) := by
  rw [Oled.Cursor.value_of_row? next, Text.Grid.row, dif_pos row.isLt]
  rfl

namespace Engine

variable {engine after : Engine}

/-- A cargo as it is serialized at this moment. -/
def stream (engine : Engine) : Cargo → List Chunk
  | .setup => Lcd.setup engine.display.backlight
  | .frame => Lcd.frame engine.display.text engine.display.backlight
  | .panelSetup => Oled.commandChunks engine.config.panel.powerOnCommands ++
      Oled.opening engine.display.backlight
  | .row row => Oled.rowChunks engine.config.font (engine.display.text.rows.get row)
  | .opening => Oled.opening engine.display.backlight

theorem length_flatten_stream (engine : Engine) (cargo : Cargo) :
    (engine.stream cargo).flatten.length = cargo.length := by
  cases cargo with
  | setup => exact Lcd.length_flatten_setup _
  | frame => exact Lcd.length_flatten_frame _ _
  | panelSetup =>
    rw [stream, List.flatten_append, List.length_append, Oled.length_flatten_powerOn,
      Oled.length_flatten_opening]
    rfl
  | row => exact Oled.length_flatten_rowChunks _ _
  | opening => exact Oled.length_flatten_opening _

/-- The cargo that an event may start, by the display and the cursor before and after it. -/
inductive Ships (engine : Engine) : Event → Engine → Cargo → Prop where
  /-- A bring-up, also one that answers a bus error, starts the setup of a character display. -/
  | setup {event : Event} {address : UInt8} {after : Engine} :
      event = .bringUp ∨ event = .interrupt .busError → after.mode = .character address →
      Ships engine event after .setup
  /-- A bring-up, also one that answers a bus error, starts the setup of a bitmap panel. -/
  | panelSetup {event : Event} {address : UInt8} {after : Engine} :
      event = .bringUp ∨ event = .interrupt .busError → after.mode = .bitmap address .firstRow →
      Ships engine event after .panelSetup
  /-- A finished transfer on a character display starts a frame. -/
  | frame {address : UInt8} {after : Engine} : engine.mode = .character address →
      after.mode = .character address → Ships engine (.interrupt .transferDone) after .frame
  /-- A finished transfer on a bitmap panel starts the row that the cursor names. -/
  | row {address : UInt8} {cursor : Oled.Cursor} {row : Fin Text.rowCount} {after : Engine} :
      engine.mode = .bitmap address cursor → cursor.row? = some row →
      after.mode = .bitmap address cursor.advance →
      Ships engine (.interrupt .transferDone) after (.row row)
  /-- Behind both rows, it starts the opening of the next transaction. -/
  | opening {address : UInt8} {after : Engine} : engine.mode = .bitmap address .reopen →
      after.mode = .bitmap address .firstRow →
      Ships engine (.interrupt .transferDone) after .opening

/-- An event makes calls, and with them it starts nothing, or one cargo of this moment. -/
def Delivers (engine : Engine) (event : Event) (after : Engine) : Prop :=
  ∃ calls : List Call, after.board.trace = calls.reverse ++ engine.board.trace ∧
    (calls.filterMap Call.transfer? = [] ∨ ∃ cargo, engine.Ships event after cargo ∧
      calls.filterMap Call.transfer? = [(engine.stream cargo).flatten])

variable {event : Event}

theorem Delivers.of_silent (silent : engine.Silent after) : engine.Delivers event after := by
  obtain ⟨calls, exchange, all⟩ := silent.makes
  exact ⟨calls, exchange.trace_eq, .inl (filterMap_transfer?_of_sendsNothing all)⟩

theorem Delivers.of_sent {cargo : Cargo} (sent : engine.Sent after)
    (ships : engine.Ships event after cargo)
    (payload : after.payload.bytes = (engine.stream cargo).flatten) :
    engine.Delivers event after := by
  obtain ⟨calls, exchange, transfers⟩ := sent.transfers
  exact ⟨calls, exchange.trace_eq, .inr ⟨cargo, ships, transfers.trans (by rw [payload])⟩⟩

/-! ## Bring-up -/

theorem bytes_firstPayload (engine : Engine) (controller : Controller) :
    (engine.firstPayload controller).bytes = (engine.stream (.setupOf controller)).flatten := by
  cases controller with
  | character => rfl
  | bitmap => exact (List.flatten_append ..).symm

theorem ships_setupOf {controller : Controller}
    (bringsUp : event = .bringUp ∨ event = .interrupt .busError)
    (mode : after.mode = .ofController controller) :
    engine.Ships event after (.setupOf controller) := by
  cases controller with
  | character => exact .setup bringsUp mode
  | bitmap => exact .panelSetup bringsUp mode

/-- The scan blanks the text, but the first payload depends on the backlight alone. -/
theorem Identified.firstPayload_eq {controller named : Controller}
    (h : engine.Identified named after) :
    after.firstPayload controller = engine.firstPayload controller := by
  have same : after.config = engine.config ∧
      after.display.backlight = engine.display.backlight := by
    obtain frame | ⟨_, frame⟩ := h.frame
    · exact ⟨frame.config, congrArg Display.backlight frame.display⟩
    · exact ⟨frame.config, by rw [frame.display]; rfl⟩
  cases controller with
  | character => rw [firstPayload, same.2]; rfl
  | bitmap => rw [firstPayload, same.1, same.2]; rfl

/-- A bring-up that starts a transfer has brought a display up, and starts its setup. -/
theorem BroughtUp.first_payload {result : Except BringUpError PowerOn}
    (h : engine.BroughtUp result after) (inFlight : after.activity = .inFlight) :
    ∃ controller, after.mode = .ofController controller ∧
      after.payload = engine.firstPayload controller := by
  cases h with
  | floating => exact absurd inFlight (activity_giveUp _ _ _)
  | undetected => exact absurd inFlight (activity_giveUp _ _ _)
  | unanswered => exact absurd inFlight (activity_giveUp _ _ _)
  | @character address identified bus named =>
    refine ⟨.character address, rfl, ?_⟩
    rw [← named.firstPayload_eq]
    rfl
  | @bitmap address identified named =>
    refine ⟨.bitmap address, rfl, ?_⟩
    rw [← named.firstPayload_eq]
    rfl

theorem BroughtUp.delivers {result : Except BringUpError PowerOn}
    (h : engine.BroughtUp result after) : engine.Delivers .bringUp after := by
  obtain stopped | sent := h.stopped_or_sent
  · exact .of_silent stopped.toSilent
  · obtain ⟨controller, mode, payload⟩ := h.first_payload sent.activity
    refine .of_sent sent (ships_setupOf (.inl rfl) mode) ?_
    rw [payload, bytes_firstPayload]

/-! ## Interrupts -/

theorem Recovered.delivers (h : engine.Recovered after) :
    engine.Delivers (.interrupt .busError) after := by
  cases known : engine.mode.controller? with
  | none =>
    cases h with
    | unknown =>
      exact .of_silent ⟨.of_exchange engine.exchange_noted rfl, rfl⟩
    | broughtUp other => rw [known] at other; cases other
  | some controller =>
    obtain stopped | sent := h.stopped_or_sent known
    · exact .of_silent stopped.toSilent
    · have restarted := h.restarted known
      refine .of_sent sent (ships_setupOf (.inr rfl) restarted.mode) ?_
      rw [restarted.payload sent.activity, bytes_firstPayload]

theorem TransferDone.delivers (h : engine.TransferDone after) :
    engine.Delivers (.interrupt .transferDone) after := by
  obtain stopped | sent := h.stopped_or_sent
  · exact .of_silent stopped.toSilent
  · cases h with
    | unknown => cases sent.activity
    | frame mode => exact .of_sent sent (.frame mode mode) rfl
    | @row address cursor row mode next =>
      have moved : engine.mode.withCursor cursor.advance = .bitmap address cursor.advance :=
        congrArg (Mode.withCursor · cursor.advance) mode
      exact .of_sent sent (.row mode next moved) rfl
    | @reopened address bus mode =>
      have moved : engine.mode.withCursor .firstRow = .bitmap address .firstRow :=
        congrArg (Mode.withCursor · .firstRow) mode
      exact .of_sent sent (.opening mode moved) rfl
    | notClosed => cases sent.activity

/-- A bus event only moves the opening of a transaction along. -/
theorem delivers_onBusEvent (engine : Engine) : engine.Delivers event engine.onBusEvent := by
  obtain ⟨calls, exchange, addressing⟩ := engine.makes_onBusEvent
  have silent : calls.all Call.sendsNothing = true := by
    refine Call.all_mono addressing fun call addressing => ?_
    cases call <;> first | rfl | cases addressing
  exact ⟨calls, exchange.trace_eq, .inl (filterMap_transfer?_of_sendsNothing silent)⟩

/-- Every event delivers at most one cargo. -/
theorem Stepped.delivers (stepped : engine.Stepped event after) : engine.Delivers event after := by
  cases stepped with
  | broughtUp result => exact result.delivers
  | busEvent => exact engine.delivers_onBusEvent
  | recovered result => exact result.delivers
  | transferDone result => exact result.delivers
  | world => exact ⟨[], rfl, .inl rfl⟩
  | foreground => exact ⟨[], rfl, .inl rfl⟩

end Engine

/-! ## Runs -/

namespace Step

/-- The payloads that a step starts. -/
def transfers (step : Step) : List (List UInt8) := step.calls.filterMap Call.transfer?

theorem calls_of_append {step : Step} {calls : List Call}
    (grown : step.after.board.trace = calls.reverse ++ step.before.board.trace) :
    step.calls = calls := by
  rw [Step.calls, grown, List.length_append, Nat.add_sub_cancel, List.take_left,
    List.reverse_reverse]

theorem trace_after (step : Step) :
    step.after.board.trace = step.calls.reverse ++ step.before.board.trace := by
  obtain ⟨calls, grown, _⟩ := step.stepped.delivers
  rw [calls_of_append grown]
  exact grown

/-- What a step starts is one cargo, if anything. -/
theorem delivers (step : Step) : step.transfers = [] ∨
    ∃ cargo, step.before.Ships step.event step.after cargo ∧
      step.transfers = [(step.before.stream cargo).flatten] := by
  obtain ⟨calls, grown, delivers⟩ := step.stepped.delivers
  rw [transfers, calls_of_append grown]
  exact delivers

end Step

/-- The transfers of a run are those of its steps, in their order. -/
theorem Run.transfers_eq {engine final : Engine} {steps : List Step}
    (run : Run engine steps final) :
    final.board.trace.reverse.filterMap Call.transfer? =
      engine.board.trace.reverse.filterMap Call.transfer? ++ steps.flatMap Step.transfers := by
  induction run with
  | nil => rw [List.flatMap_nil, List.append_nil]
  | snoc step _ ih =>
    rw [step.trace_after, List.reverse_append, List.reverse_reverse, List.filterMap_append, ih,
      List.flatMap_append, List.flatMap_singleton, List.append_assoc]
    rfl

/--
**No event meets a defect, and every transfer carries exactly one cargo of its moment.** Let
anything happen to a new engine. There is a result in any case: a row that is drawn is on the glass,
and its glyphs do not run past the end of their page. The transfers on the board's record are those
of the steps; a step starts none, or one that carries exactly the cargo which the event calls for,
serialized from what the step finds and of the cargo's own length.
-/
theorem transfers_of_run {config : Config} {display : Display} {world : World} {engine : Engine}
    (new : Engine.ofConfig config display { world } = .ok engine) :
    (∀ events, ∃ steps final, Run engine steps final ∧ steps.map Step.event = events) ∧
    (∀ (grid : Text.Grid) (cursor : Oled.Cursor) (row : Fin Text.rowCount),
      cursor.row? = some row → grid.row cursor.value = .ok (grid.rows.get row)) ∧
    (∀ (font : Glyph.Font) (cells : Text.Row) (page : Nat),
      (((List.range page).flatMap (Oled.pageChunks font cells)).flatten ++
        (cells.toList.map (font.page · page)).flatten).length ≤ Oled.width * (page + 1)) ∧
    ∀ steps final, Run engine steps final →
      final.board.trace.reverse.filterMap Call.transfer? = steps.flatMap Step.transfers ∧
      ∀ step ∈ steps, step.transfers = [] ∨
        ∃ cargo, step.before.Ships step.event step.after cargo ∧
          step.transfers = [(step.before.stream cargo).flatten] ∧
          (step.before.stream cargo).flatten.length = cargo.length ∧ 0 < cargo.length := by
  refine ⟨exists_run engine, fun grid _ _ next => grid.row_of_cursor next,
    Oled.length_drawn_le, fun steps final run => ⟨?_, fun step _ => ?_⟩⟩
  · obtain rfl := Engine.eq_of_ofConfig new
    exact run.transfers_eq
  · obtain nothing | ⟨cargo, ships, transfers⟩ := step.delivers
    · exact .inl nothing
    · have length := step.before.length_flatten_stream cargo
      exact .inr ⟨cargo, ships, transfers, length, cargo.length_pos⟩

/-- On a panel whose opening is moved along, the setup, both rows and an opening go out in turn. -/
theorem transfers_of_run_panel : ∃ engine,
    Engine.ofConfig {} {} { world := { devices := [0x3c] } } = .ok engine ∧
      let steps := engine.steps ([.bringUp, .interrupt .busEvent, .interrupt .busEvent] ++
        List.replicate 3 (.interrupt .transferDone))
      (steps.flatMap Step.transfers).map List.length = [63, 256, 256, 19] ∧
        ∀ step ∈ steps, step.transfers = [] ∨
          ∃ cargo, step.before.Ships step.event step.after cargo ∧
            step.transfers = [(step.before.stream cargo).flatten] ∧
            (step.before.stream cargo).flatten.length = cargo.length ∧ 0 < cargo.length := by
  refine ⟨_, rfl, by decide +kernel, ?_⟩
  have new : Engine.ofConfig {} {} { world := { devices := [0x3c] } } = .ok _ := rfl
  exact ((transfers_of_run new).2.2.2 _ _ (run_steps _ _)).2

end StatusDisplay
