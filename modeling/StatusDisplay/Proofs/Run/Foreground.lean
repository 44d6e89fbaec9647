import StatusDisplay.Proofs.Run.Basic

/-!
# What the foreground owns

The text and the backlight flag are the foreground's. An engine reads them, and writes one of them
once: a bring-up that looks for its display and finds one blanks the text, whatever becomes of the
handshake after that. A recovery looks for nothing, so it keeps the text. The counter is the engine's,
which moves it by one at the end of a transfer and at no other event. So the text of a moment is
replayed from what the foreground has written since a display was last found.
-/

namespace StatusDisplay

namespace Event

/-- What an event means for the text if it is the foreground's; other events mean nothing for it. -/
def onText (grid : Text.Grid) : Event → Text.Grid
  | write col row minWidth text => grid.write col row minWidth text
  | clear => grid.clear
  | _ => grid

end Event

namespace Engine

variable {engine after : Engine}

/-- Whether a bring-up looks for a display and finds one. -/
def finds (engine : Engine) : Bool :=
  engine.mode = .unknown && engine.pulledUp && engine.checked.attach.detect.1.isOk

theorem finds_of_known {controller : Controller} (known : engine.mode.controller? = some controller) :
    engine.finds = false := by
  have other : engine.mode ≠ .unknown := by
    intro unknown
    rw [unknown] at known
    cases known
  simp [finds, other]

theorem finds_of_low (low : engine.pulledUp = false) : engine.finds = false := by
  simp [finds, low]

theorem finds_of_error {error : BringUpError} {bus : Bus}
    (absent : Bus.detect engine.config engine.checked.attach.bus = .error error bus) :
    engine.finds = false := by
  have missed : engine.checked.attach.detect = (.error error, _) := detect_of_error absent
  rw [finds, missed]
  exact Bool.and_false _

theorem finds_of_ok {controller : Controller} {bus : Bus} (unknown : engine.mode = .unknown)
    (pulled : engine.pulledUp = true)
    (found : Bus.detect engine.config engine.checked.attach.bus = .ok controller bus) :
    engine.finds = true := by
  have detected : engine.checked.attach.detect = (.ok controller, _) := detect_of_ok found
  rw [finds, detected, unknown, pulled]
  rfl

/-- The display as a bring-up leaves it. -/
def broughtDisplay (engine : Engine) : Display :=
  if engine.finds then engine.display.clear else engine.display

theorem Identified.display {controller : Controller} (h : engine.Identified controller after) :
    after.display = engine.broughtDisplay := by
  cases h with
  | known mode =>
    rw [broughtDisplay, finds_of_known mode]
    exact ((Frame.wake engine).trans (.attach _)).display
  | @found bus unknown pulled scan =>
    have frame := ((Frame.checked engine).trans (.attach _)).trans (.setBus _ bus)
    rw [broughtDisplay, finds_of_ok unknown pulled scan]
    exact frame.clearText.display

/-- However a bring-up ends, it blanks the text if it has found its display, and only then. -/
theorem BroughtUp.display {result : Except BringUpError PowerOn}
    (h : engine.BroughtUp result after) : after.display = engine.broughtDisplay := by
  cases h with
  | floating unknown low =>
    rw [broughtDisplay, finds_of_low low, (frame_giveUp _ _ _).display]
    exact (Frame.checked engine).display
  | @undetected error bus unknown pulled scan =>
    rw [broughtDisplay, finds_of_error scan, (frame_giveUp _ _ _).display]
    exact (((Frame.checked engine).trans (.attach _)).trans (.setBus _ bus)).display
  | @unanswered address identified error bus named =>
    have adopted := frame_adopt identified (.character address)
    rw [(frame_giveUp _ _ _).display, ← named.display]
    simp only [recordFailure, setBus, adopted.display]
  | @character address identified bus named =>
    have adopted := frame_adopt identified (.character address)
    rw [(frame_launch _ _).display, ← named.display]
    simp only [setPayload, setBus, adopted.display]
  | @bitmap address identified named =>
    have adopted := frame_adopt identified (.bitmap address)
    have opened := frame_openPanel (identified.adopt (.bitmap address))
    rw [(frame_launchPanel _).display, ← named.display]
    simp only [opened.display, setCursor, setPayload, adopted.display]

theorem Recovered.display (h : engine.Recovered after) : after.display = engine.display := by
  cases h with
  | unknown => exact (frame_noted engine).display
  | broughtUp known result =>
    have restarted := (Recovered.broughtUp known result).restarted known
    exact restarted.display

/-- The end of a transfer counts a frame, or leaves the display alone. -/
theorem TransferDone.display (h : engine.TransferDone after) :
    after.display = engine.display ∨ after.display = engine.display.frameCompleted := by
  cases h with
  | unknown => exact .inl rfl
  | frame => exact .inr rfl
  | row => exact .inl rfl
  | reopened => exact .inr rfl
  | notClosed => exact .inr rfl

end Engine

namespace Step

variable {step : Step}

/-- Whether a step is a bring-up that looks for a display and finds one. -/
def finds (step : Step) : Bool := step.event = .bringUp && step.before.finds

theorem finds_of_bringUp (event : step.event = .bringUp) : step.finds = step.before.finds := by
  simp [finds, event]

theorem finds_of_other (event : step.event ≠ .bringUp) : step.finds = false := by
  simp [finds, event]

/-- What a step that is not the foreground's makes of the display. -/
structure KeepsForeground (step : Step) : Prop where
  backlight : step.after.display.backlight = step.before.display.backlight
  text : step.after.display.text = if step.finds then .empty else step.before.display.text
  count : step.after.display.refreshCount = step.before.display.refreshCount ∨
    step.event = .interrupt .transferDone ∧
      step.after.display.refreshCount = step.before.display.refreshCount + 1

/-- A step that leaves the display alone. -/
theorem KeepsForeground.of_display (event : step.event ≠ .bringUp)
    (same : step.after.display = step.before.display) : step.KeepsForeground := by
  refine ⟨by rw [same], ?_, .inl (by rw [same])⟩
  rw [finds_of_other event, same]
  rfl

theorem keepsForeground (step : Step) (inside : step.event.isForeground = false) :
    step.KeepsForeground := by
  obtain ⟨before, event, after, taken⟩ := step
  have stepped : before.Stepped event after := Step.stepped ⟨before, event, after, taken⟩
  cases stepped with
  | broughtUp result =>
    have display : after.display = before.broughtDisplay := result.display
    let step : Step := ⟨before, .bringUp, after, taken⟩
    have finds : step.finds = before.finds := finds_of_bringUp rfl
    unfold Engine.broughtDisplay at display
    cases found : before.finds with
    | true =>
      rw [found] at display finds
      refine ⟨by rw [display]; rfl, ?_, .inl (by rw [display]; rfl)⟩
      rw [finds, display]
      exact before.display.text.clear_eq_empty
    | false =>
      rw [found] at display finds
      refine ⟨by rw [display]; rfl, ?_, .inl (by rw [display]; rfl)⟩
      rw [finds, display]
      rfl
  | busEvent => exact .of_display nofun (Engine.Frame.onBusEvent before).display
  | recovered result => exact .of_display nofun result.display
  | transferDone result =>
    obtain same | counted := result.display
    · exact .of_display nofun same
    · let step : Step := ⟨before, .interrupt .transferDone, after, taken⟩
      have uncleared : step.finds = false := finds_of_other nofun
      refine ⟨by rw [counted]; rfl, ?_, .inr ⟨rfl, by rw [counted]; rfl⟩⟩
      rw [uncleared, counted]
      rfl
  | world => exact .of_display nofun rfl
  | foreground foreground => exact absurd (foreground.symm.trans inside) (by decide)

/-- The text after a step: blank if a display was found, else what the foreground has made of it. -/
theorem text_after (step : Step) : step.after.display.text =
    if step.finds then .empty else step.event.onText step.before.display.text := by
  obtain ⟨before, event, after, taken⟩ := step
  have kept := keepsForeground ⟨before, event, after, taken⟩
  cases event with
  | bringUp => exact (kept rfl).text
  | interrupt => exact (kept rfl).text
  | world => exact (kept rfl).text
  | write => cases taken; rfl
  | clear => cases taken; rfl
  | setBacklight => cases taken; rfl

end Step

/-! ## Runs -/

/-- The text that the foreground's events make of a grid. -/
def Text.Grid.replay (grid : Text.Grid) (events : List Event) : Text.Grid :=
  events.foldl Event.onText grid

/-- The text at the end of a run: a display that is found blanks it, and the foreground writes it. -/
theorem Run.text_eq {engine final : Engine} {steps : List Step} (run : Run engine steps final) :
    final.display.text = steps.foldl
      (fun grid step => if step.finds then .empty else step.event.onText grid)
      engine.display.text := by
  induction run with
  | nil => rfl
  | snoc step _ ih => rw [List.foldl_append, List.foldl_cons, List.foldl_nil, ← ih, step.text_after]

/-- As long as the foreground does nothing, the backlight flag stays as it is. -/
theorem Run.backlight_eq {engine final : Engine} {steps : List Step} (run : Run engine steps final)
    (inside : ∀ step ∈ steps, step.event.isForeground = false) :
    final.display.backlight = engine.display.backlight ∧
      ∀ step ∈ steps, step.after.display.backlight = engine.display.backlight := by
  induction run with
  | nil => exact ⟨rfl, fun _ mem => absurd mem List.not_mem_nil⟩
  | @snoc steps step _ ih =>
    obtain ⟨before, earlier⟩ := ih fun step mem => inside step (List.mem_append_left _ mem)
    have kept := (step.keepsForeground (inside step (List.mem_concat_self ..))).backlight.trans before
    refine ⟨kept, fun other mem => ?_⟩
    obtain mem | mem := List.mem_append.1 mem
    · exact earlier other mem
    · rw [List.mem_singleton.1 mem]
      exact kept

/-- As long as no display is found, the text is replayed. -/
theorem replay_of_not_finds {steps : List Step} (grid : Text.Grid)
    (none : ∀ step ∈ steps, step.finds = false) :
    steps.foldl (fun grid step => if step.finds then .empty else step.event.onText grid) grid =
      grid.replay (steps.map Step.event) := by
  induction steps generalizing grid with
  | nil => rfl
  | cons step steps ih =>
    obtain ⟨first, rest⟩ := List.forall_mem_cons.1 none
    rw [List.foldl_cons, first, List.map_cons]
    exact ih _ rest

/--
**The engine respects what the foreground owns.** Let anything happen to an engine; there is a result
in any case. A step that is not the foreground's keeps the backlight flag; it keeps the text unless it
is a bring-up that has to look for its display and finds it, and then the text is blank however the
bring-up ends; and it keeps the counter unless it is the end of a transfer, which counts one at most.
So the text at the end of a run is what the foreground has written since a display was last found, on
a blank grid, or since the beginning if none was.
-/
theorem foreground_kept (engine : Engine) :
    (∀ events, ∃ steps final, Run engine steps final ∧ steps.map Step.event = events) ∧
    ∀ steps final, Run engine steps final →
      (∀ step ∈ steps, step.event.isForeground = false → step.KeepsForeground) ∧
      (∀ earlier step later, steps = earlier ++ step :: later → step.finds = true →
        (∀ next ∈ later, next.finds = false) →
          final.display.text = Text.Grid.replay .empty (later.map Step.event)) ∧
      ((∀ step ∈ steps, step.finds = false) →
        final.display.text = engine.display.text.replay (steps.map Step.event)) := by
  refine ⟨exists_run engine, fun steps final run => ⟨?_, ?_, fun none => ?_⟩⟩
  · exact fun step _ inside => step.keepsForeground inside
  · rintro earlier step later rfl found none
    rw [run.text_eq, List.foldl_append, List.foldl_cons, found]
    exact replay_of_not_finds .empty none
  · rw [run.text_eq]
    exact replay_of_not_finds _ none

/-- A display whose acknowledgement is missed once it has been found: the handshake meets a fault. -/
def missedHandshake : World where
  devices := [0x27]
  statusWords := [.startSent, .addressAcked, .byteTransferred, .startSent, .ackFailure]

/-- An engine that looks at one address before the panels' on such a board. -/
def missedEngine : Engine :=
  { config := { lcdRange := ⟨0x27, 0x27⟩ }
    display := {}
    bus := { board := { world := missedHandshake }, timeout := 10000 }
    watchdog := { timeout := 200000 } }

/-- The foreground writes before and after a bring-up; the second one finds no pull-ups. -/
def missedEvents : List Event :=
  [.write 0 0 16 "LOST", .bringUp, .write 0 1 16 "KEPT", .world { floating := true } .none, .bringUp]

/--
What is written before the display was found is gone although its handshake fails, and what is written
after that stays when the next bring-up fails.
-/
theorem foreground_kept_missed :
    Engine.ofConfig missedEngine.config {} { world := missedHandshake } = .ok missedEngine ∧
      let steps := missedEngine.steps missedEvents
      steps.map Step.finds = [false, true, false, false, false] ∧
        steps.map (·.after.mode) = List.replicate 5 .unknown ∧
        (missedEngine.nextAll missedEvents).display.text =
          Text.Grid.replay .empty (missedEvents.drop 2) := by
  refine ⟨rfl, ?_⟩
  intro steps
  have finds : steps.map Step.finds = [false, true, false, false, false] := by decide +kernel
  have unknown : steps.map (·.after.mode) = List.replicate 5 .unknown := by decide +kernel
  have run : Run missedEngine steps (missedEngine.nextAll missedEvents) := run_steps _ _
  obtain ⟨_, since, _⟩ := (foreground_kept missedEngine).2 steps _ run
  have text := since (steps.take 1) (steps.get ⟨1, by decide⟩) (steps.drop 2) rfl
    (by decide +kernel) (by decide +kernel)
  exact ⟨finds, unknown, text⟩

end StatusDisplay
