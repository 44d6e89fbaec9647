import StatusDisplay.Proofs.Lcd.Display
import StatusDisplay.Proofs.Oled.Receiver
import StatusDisplay.Proofs.Run.Cargo
import StatusDisplay.Proofs.Run.Twins
import StatusDisplay.Proofs.Sync.Character

/-!
# The backlight flag in a run

Frames and setups carry the backlight flag, and so does the opening of a transaction; the rows of a
panel do not. Once the flag is set, every transfer that is started carries it, up to the next change. A
transfer that was started before may still be on its way, so a waiting foreground counts twice: between
two counts a transfer that carries the flag has been started and has completed (`LitRun`), whatever
recoveries come in between.
-/

namespace StatusDisplay

/-! ## What carries the flag -/

/-- The cargos for a controller that carry the backlight flag. -/
def Controller.litCargos : Controller → List Cargo
  | .character _ => [.setup, .frame]
  | .bitmap _ => [.panelSetup, .opening]

/-- A cargo for a controller. All of them carry the flag, but for the rows of a panel. -/
def Controller.Takes (controller : Controller) (cargo : Cargo) : Prop :=
  cargo ∈ controller.litCargos ∨
    ∃ address row, controller = .bitmap address ∧ cargo = .row row

/--
What it means for the bytes of a cargo to carry a backlight flag. On a character display every byte
holds the backlight line; on a panel the last command before the pixel data switches it on or off.
-/
def Cargo.Latches (lit : Bool) (bytes : List UInt8) : Cargo → Prop
  | .setup | .frame => ∀ byte ∈ bytes, Lcd.backlightLine byte = lit
  | .panelSetup | .opening => ∃ commands power, Oled.decode bytes = some (commands ++ [power], []) ∧
      power = if lit then 0xaf else 0xae
  | .row _ => True

theorem Lcd.backlightLine_setup {lit : Bool} :
    ∀ sent ∈ (Lcd.setup lit).flatten, Lcd.backlightLine sent = lit := by
  intro sent mem
  obtain ⟨chunk, inside, mem⟩ := List.mem_flatten.1 mem
  obtain ⟨value, _, inside⟩ := List.mem_flatMap.1 inside
  rw [Lcd.backlightLine_byte sent (List.mem_flatten.2 ⟨chunk, inside, mem⟩)]
  cases lit <;> rfl

/-- Commands before an opening belong to its transaction. -/
theorem Oled.decode_opening (before : List UInt8) (lit : Bool) :
    Oled.decode ((Oled.commandChunks before).flatten ++ (Oled.opening lit).flatten) =
      some (before ++ Oled.addressWindow ++ [Oled.powerCommand lit], []) := by
  have marker : ([[Oled.dataMarker]] : List Chunk).flatten = [Oled.dataMarker] := rfl
  rw [Oled.decode_commands, Oled.opening, List.flatten_append, List.flatten_append, List.append_assoc,
    Oled.decode_commands, Oled.decode_commands, marker, Oled.decode_data]
  simp

theorem Oled.latches_opening (before : List UInt8) (lit : Bool) : ∃ commands power,
    Oled.decode ((Oled.commandChunks before).flatten ++ (Oled.opening lit).flatten) =
      some (commands ++ [power], []) ∧ power = if lit then 0xaf else 0xae :=
  ⟨before ++ Oled.addressWindow, Oled.powerCommand lit, Oled.decode_opening before lit, rfl⟩

/-- What is serialized carries the flag of the moment. -/
theorem Engine.latches_stream (engine : Engine) (cargo : Cargo) :
    cargo.Latches engine.display.backlight (engine.stream cargo).flatten := by
  cases cargo with
  | setup => exact Lcd.backlightLine_setup
  | frame => exact Lcd.backlightLine_frame
  | panelSetup =>
    show ∃ commands power, Oled.decode (Oled.commandChunks _ ++ Oled.opening _).flatten = _ ∧ _
    rw [List.flatten_append]
    exact Oled.latches_opening _ _
  | row => trivial
  | opening => exact Oled.latches_opening [] _

namespace Engine

variable {engine after : Engine} {controller : Controller}

/-- What an event ships is a cargo for the display that is known. -/
theorem Ships.takes {event : Event} {cargo : Cargo} (h : engine.Ships event after cargo)
    (known : engine.mode.controller? = some controller)
    (known' : after.mode.controller? = some controller) : controller.Takes cargo := by
  cases h with
  | setup _ mode =>
    rw [mode] at known'
    cases known'
    exact .inl (List.mem_cons_self ..)
  | panelSetup _ mode =>
    rw [mode] at known'
    cases known'
    exact .inl (List.mem_cons_self ..)
  | frame mode =>
    rw [mode] at known
    cases known
    exact .inl (List.mem_cons_of_mem _ (List.mem_cons_self ..))
  | @row address cursor row _ mode =>
    rw [mode] at known
    cases known
    exact .inr ⟨address, row, rfl, rfl⟩
  | opening mode =>
    rw [mode] at known
    cases known
    exact .inl (List.mem_cons_of_mem _ (List.mem_cons_self ..))

/-- Both engines serialize the same. -/
def SameStreams (before after : Engine) : Prop := ∀ cargo, after.stream cargo = before.stream cargo

theorem SameStreams.trans {first second third : Engine} (h : first.SameStreams second)
    (h' : second.SameStreams third) : first.SameStreams third :=
  fun cargo => (h' cargo).trans (h cargo)

theorem SameStreams.of_display (config : after.config = engine.config)
    (text : after.display.text = engine.display.text)
    (backlight : after.display.backlight = engine.display.backlight) : engine.SameStreams after := by
  intro cargo
  cases cargo <;> simp only [stream, config, text, backlight]

theorem TransferDone.sameStreams (h : engine.TransferDone after) : engine.SameStreams after := by
  cases h <;> exact .of_display rfl rfl rfl

theorem Restarted.sameStreams (h : engine.Restarted controller after) : engine.SameStreams after :=
  .of_display h.config (congrArg Display.text h.display) (congrArg Display.backlight h.display)

/--
What becomes of the transfer channel when a step counts or recovers: it stands still, or a cargo is
on its way that carries the flag.
-/
def SendsFlag (engine : Engine) (controller : Controller) (after : Engine) : Prop :=
  after.activity ≠ .inFlight ∨ ∃ cargo ∈ controller.litCargos,
    engine.Sent after ∧ after.payload.bytes = (engine.stream cargo).flatten

theorem Recovered.sendsFlag (h : engine.Recovered after)
    (known : engine.mode.controller? = some controller) : engine.SendsFlag controller after := by
  obtain stopped | sent := h.stopped_or_sent known
  · exact .inl stopped.activity
  · have payload := (h.restarted known).payload sent.activity
    have lit : Cargo.setupOf controller ∈ controller.litCargos := by
      cases controller <;> exact List.mem_cons_self ..
    exact .inr ⟨_, lit, sent, by rw [payload, bytes_firstPayload]⟩

/-- The end of a transfer sends a row without counting, or what it sends carries the flag. -/
theorem TransferDone.sendsFlag (h : engine.TransferDone after)
    (known : engine.mode.controller? = some controller) :
    after.display = engine.display ∨ engine.SendsFlag controller after := by
  obtain stopped | sent := h.stopped_or_sent
  · exact .inr (.inl stopped.activity)
  · cases h with
    | unknown mode => rw [mode] at known; cases known
    | frame mode =>
      rw [mode] at known
      cases known
      exact .inr (.inr ⟨.frame, List.mem_cons_of_mem _ (List.mem_cons_self ..), sent, rfl⟩)
    | row => exact .inl rfl
    | reopened mode =>
      rw [mode] at known
      cases known
      exact .inr (.inr ⟨.opening, List.mem_cons_of_mem _ (List.mem_cons_self ..), sent, rfl⟩)
    | notClosed => cases sent.activity

end Engine

/-! ## Runs -/

/-- A payload that was handed over is on its way at the end of the step. -/
theorem Step.opened_of_sent {step : Step} (sent : step.before.Sent step.after) (signs : List Sign) :
    Opened (· = .call (.startTransfer step.after.payload.bytes)) Sign.EndsTransfer
      (signs ++ step.signs) := by
  obtain ⟨ready, micros, ⟨earlier, exchange, _⟩, _, start⟩ := sent.start
  have calls : step.calls = earlier ++ [.startTransfer step.after.payload.bytes, .armAlarm micros] :=
    calls_eq (exchange.append start)
  refine ⟨signs ++ (if step.completes then [.completed] else []) ++ earlier.map .call, _,
    [.call (.armAlarm micros)], by rw [Step.signs, calls]; simp, rfl, ?_⟩
  intro sign mem
  rw [List.mem_singleton.1 mem]
  exact id

/-- A transfer that carries the flag has completed. -/
def LitCompletes (engine : Engine) (controller : Controller) (steps : List Step) : Prop :=
  ∃ cargo ∈ controller.litCargos, Completes (engine.stream cargo).flatten (timeline steps)

/-- A transfer that carries the flag is on its way. -/
def LitOpened (engine : Engine) (controller : Controller) (steps : List Step) : Prop :=
  ∃ cargo ∈ controller.litCargos,
    Opened (· = .call (.startTransfer (engine.stream cargo).flatten)) Sign.EndsTransfer (timeline steps)

/--
How far a run has come since the flag was set. If a frame was counted, nothing is on its way but what
carries the flag; at the second count that has completed.
-/
structure LitRun (engine : Engine) (controller : Controller) (steps : List Step) (final : Engine) :
    Prop where
  known : final.mode.controller? = some controller
  streams : engine.SameStreams final
  progress : LitCompletes engine controller steps ∨
    steps.countP Step.counts ≤ 1 ∧ (steps.countP Step.counts = 1 →
      final.activity ≠ .inFlight ∨ LitOpened engine controller steps)

namespace LitRun

variable {engine : Engine} {controller : Controller} {steps : List Step} {step : Step}

theorem start (known : engine.mode.controller? = some controller) : LitRun engine controller [] engine :=
  ⟨known, fun _ => rfl, .inr ⟨Nat.zero_le 1, nofun⟩⟩

theorem litCompletes_append (h : LitCompletes engine controller steps) :
    LitCompletes engine controller (steps ++ [step]) := by
  obtain ⟨cargo, lit, earlier, x, between, y, later, split, starts, ends, clean⟩ := h
  refine ⟨cargo, lit, earlier, x, between, y, later ++ step.signs, ?_, starts, ends, clean⟩
  rw [timeline_concat, split, List.append_assoc, List.cons_append]

/-- A cargo with the flag is on its way at the end of a step that sends one, or nothing is. -/
theorem litOpened_of_sendsFlag (h : LitRun engine controller steps step.before)
    (sends : step.before.SendsFlag controller step.after) :
    step.after.activity ≠ .inFlight ∨ LitOpened engine controller (steps ++ [step]) := by
  obtain idle | ⟨cargo, lit, sent, payload⟩ := sends
  · exact .inl idle
  · have opened := Step.opened_of_sent sent (timeline steps)
    rw [payload, h.streams cargo] at opened
    refine .inr ⟨cargo, lit, ?_⟩
    rw [timeline_concat]
    exact opened

/-- A quiet step lets a transfer be on its way. -/
theorem litOpened_of_quiet (h : LitOpened engine controller steps) (quiet : step.Quiet) :
    LitOpened engine controller (steps ++ [step]) := by
  obtain ⟨cargo, lit, opened⟩ := h
  have clean := quiet.not_endsTransfer
  have none : ∀ sign ∈ step.signs, ¬ sign = .call (.startTransfer (engine.stream cargo).flatten) := by
    rintro sign mem rfl
    exact clean _ mem trivial
  refine ⟨cargo, lit, ?_⟩
  rw [timeline_concat, opened_append none]
  exact ⟨opened, clean⟩

/-- The end of a transfer that was on its way completes it. -/
theorem litCompletes_of_completes (h : LitOpened engine controller steps)
    (completes : step.completes = true) : LitCompletes engine controller (steps ++ [step]) := by
  obtain ⟨cargo, lit, opened⟩ := h
  have incomplete : ∀ sign ∈ step.calls.map Sign.call, ¬ sign = .completed := by
    intro sign mem
    obtain ⟨call, _, rfl⟩ := List.mem_map.1 mem
    exact nofun
  refine ⟨cargo, lit, ?_⟩
  rw [timeline_concat, Step.signs_of_completes completes, List.append_cons]
  exact (followed_append incomplete).2 (followed_concat.2 (.inr ⟨opened, rfl⟩))

/-- A step that does not count keeps its place. -/
theorem uncounted (h : LitRun engine controller steps step.before)
    (streams : step.before.SameStreams step.after) (uncounted : step.counts = false)
    (goesOn : step.before.activity ≠ .inFlight ∨ LitOpened engine controller steps →
      LitCompletes engine controller (steps ++ [step]) ∨
        step.after.activity ≠ .inFlight ∨ LitOpened engine controller (steps ++ [step])) :
    LitRun engine controller (steps ++ [step]) step.after := by
  have counts : (steps ++ [step]).countP Step.counts = steps.countP Step.counts := by
    rw [List.countP_append, List.countP_singleton, uncounted]
    rfl
  have same := h.streams.trans streams
  refine ⟨step.stepped.controller?_of_known h.known, same, ?_⟩
  rw [counts]
  obtain done | ⟨few, waiting⟩ := h.progress
  · exact .inl (litCompletes_append done)
  · by_cases once : steps.countP Step.counts = 1
    · obtain done | waits := goesOn (waiting once)
      · exact .inl done
      · exact .inr ⟨few, fun _ => waits⟩
    · exact .inr ⟨few, fun now => absurd now once⟩

/-- A count is the first, or it finds completed what carries the flag. -/
theorem counted (h : LitRun engine controller steps step.before)
    (streams : step.before.SameStreams step.after) (completes : step.completes = true)
    (sends : step.before.SendsFlag controller step.after) :
    LitRun engine controller (steps ++ [step]) step.after := by
  have atMost : (steps ++ [step]).countP Step.counts ≤ steps.countP Step.counts + 1 := by
    rw [List.countP_append]
    exact Nat.add_le_add_left List.countP_le_length _
  have same := h.streams.trans streams
  refine ⟨step.stepped.controller?_of_known h.known, same, ?_⟩
  obtain done | ⟨few, waiting⟩ := h.progress
  · exact .inl (litCompletes_append done)
  · by_cases once : steps.countP Step.counts = 1
    · have opened := (waiting once).resolve_left (not_not_intro (Step.inFlight_of_completes completes))
      exact .inl (litCompletes_of_completes opened completes)
    · exact .inr ⟨by omega, fun _ => h.litOpened_of_sendsFlag sends⟩

/-- One undisturbed step. -/
theorem snoc (h : LitRun engine controller steps step.before) (undisturbed : step.Undisturbed) :
    LitRun engine controller (steps ++ [step]) step.after := by
  obtain quiet | ⟨_, result⟩ | ⟨completes, _, result⟩ := undisturbed.cases
  · have frame := quiet.frame
    have streams : step.before.SameStreams step.after := .of_display frame.config
      (congrArg Display.text frame.display) (congrArg Display.backlight frame.display)
    refine h.uncounted streams quiet.not_counts fun waiting => .inr ?_
    obtain idle | opened := waiting
    · exact .inl (frame.activity ▸ idle)
    · exact .inr (litOpened_of_quiet opened quiet)
  · have restarted := result.restarted h.known
    have uncounted := Step.not_counts_of_display restarted.display
    refine h.uncounted restarted.sameStreams uncounted fun _ => .inr ?_
    exact h.litOpened_of_sendsFlag (result.sendsFlag h.known)
  · obtain same | sends := result.sendsFlag h.known
    · refine h.uncounted result.sameStreams (Step.not_counts_of_display same) fun waiting => .inl ?_
      have opened := waiting.resolve_left (not_not_intro (Step.inFlight_of_completes completes))
      exact litCompletes_of_completes opened completes
    · exact h.counted result.sameStreams completes sends

theorem of_run {final : Engine} (run : Run engine steps final)
    (known : engine.mode.controller? = some controller)
    (undisturbed : ∀ step ∈ steps, step.Undisturbed) : LitRun engine controller steps final := by
  induction run with
  | nil => exact start known
  | @snoc steps step _ ih =>
    have earlier : ∀ step ∈ steps, step.Undisturbed := fun step mem =>
      undisturbed step (List.mem_append_left _ mem)
    exact (ih earlier).snoc (undisturbed step (List.mem_concat_self ..))

end LitRun

/-- What is transferred in an undisturbed run is for the display, and as serialized at the beginning. -/
theorem Run.transfers_take {engine final : Engine} {controller : Controller} {steps : List Step}
    (run : Run engine steps final) (known : engine.mode.controller? = some controller)
    (undisturbed : ∀ step ∈ steps, step.Undisturbed) : ∀ step ∈ steps, ∀ bytes ∈ step.transfers,
      ∃ cargo, controller.Takes cargo ∧ bytes = (engine.stream cargo).flatten := by
  induction run with
  | nil =>
    intro step mem
    cases mem
  | @snoc steps last run ih =>
    have earlier : ∀ step ∈ steps, step.Undisturbed := fun step mem =>
      undisturbed step (List.mem_append_left _ mem)
    have before := LitRun.of_run run known earlier
    intro step mem bytes sent
    obtain mem | mem := List.mem_append.1 mem
    · exact ih earlier step mem bytes sent
    · obtain rfl := List.mem_singleton.1 mem
      have known' := step.stepped.controller?_of_known before.known
      obtain none | ⟨cargo, ships, transfers⟩ := step.delivers
      · rw [none] at sent
        cases sent
      · rw [transfers, before.streams cargo] at sent
        exact ⟨cargo, ships.takes before.known known', List.mem_singleton.1 sent⟩

/--
**The backlight flag is latched and flushed.** Let the flag be set on an engine that knows its display,
and then anything happen but the foreground: interrupts in every order, the end of a transfer only while
one is running, and changes of the world. Every transfer that is started is a cargo for the display and
carries the flag, unless it is a row of a panel, which carries none. Nothing else on the bus depends on
it: with any other flag the same things happen with the same calls, but for the bytes of the transfers.
And if two frames are counted, a transfer that carries the flag has been started since, and completed.
-/
theorem backlight_latched {engine final : Engine} {controller : Controller} {steps : List Step}
    (lit : Bool) (known : engine.mode.controller? = some controller)
    (run : Run (engine.setBacklight lit) steps final)
    (undisturbed : ∀ step ∈ steps, step.Undisturbed) :
    (∀ step ∈ steps, ∀ bytes ∈ step.transfers, ∃ cargo, controller.Takes cargo ∧
      bytes = ((engine.setBacklight lit).stream cargo).flatten ∧ cargo.Latches lit bytes) ∧
    (∀ other, ∃ steps' final', Run (engine.setBacklight other) steps' final' ∧
      (∀ step ∈ steps', step.Undisturbed) ∧ steps'.map Step.outline = steps.map Step.outline) ∧
    (2 ≤ steps.countP Step.counts → ∃ cargo ∈ controller.litCargos,
      Completes ((engine.setBacklight lit).stream cargo).flatten (timeline steps)) := by
  refine ⟨fun step mem bytes sent => ?_, fun other => ?_, fun counts => ?_⟩
  · obtain ⟨cargo, takes, rfl⟩ := run.transfers_take known undisturbed step mem bytes sent
    exact ⟨cargo, takes, rfl, (engine.setBacklight lit).latches_stream cargo⟩
  · have twins : (engine.setBacklight lit).TwinRuns (engine.setBacklight other) :=
      ⟨⟨rfl, rfl, rfl, ⟨rfl, rfl, rfl⟩⟩, rfl⟩
    obtain ⟨steps', final', run', same, _⟩ := run.twin twins known
    refine ⟨steps', final', run', fun step' mem' => ?_, same⟩
    have outline : step'.outline ∈ steps.map Step.outline := same ▸ List.mem_map_of_mem mem'
    obtain ⟨step, mem, looks⟩ := List.mem_map.1 outline
    exact Step.outline_undisturbed looks.symm (undisturbed step mem)
  · obtain completes | ⟨few, _⟩ := (LitRun.of_run run known undisturbed).progress
    · exact completes
    · omega

/--
A recovery between two counts aborts the frame that was started with the flag, but the setup that it
starts carries it too, and completes.
-/
theorem backlight_latched_greeted : ∃ cargo ∈ (Controller.character 0x27).litCargos,
    Completes ((greeted.setBacklight true).stream cargo).flatten
      (timeline ((greeted.setBacklight true).steps
        [.interrupt .transferDone, .interrupt .busError, .interrupt .transferDone])) := by
  let events : List Event :=
    [.interrupt .transferDone, .interrupt .busError, .interrupt .transferDone]
  have known : greeted.mode.controller? = some (.character 0x27) := by
    rw [mode_greeted]
    rfl
  have undisturbed : ∀ step ∈ (greeted.setBacklight true).steps events, step.Undisturbed := by
    decide +kernel
  have counts : 2 ≤ ((greeted.setBacklight true).steps events).countP Step.counts := by
    decide +kernel
  exact (backlight_latched true known (run_steps _ _) undisturbed).2.2 counts

end StatusDisplay
