import StatusDisplay.Proofs.Engine.BringUp

/-!
# What steps of the bus leave alone

Most steps of the engine act on its bus alone. `Frame` says so, and what it says of a step comes
from the shape of the step, never from what the bus does. Steps that do change the engine are
described by the fields they set, with the frame around them.
-/

namespace StatusDisplay.Engine

/-- Everything but the bus, and whether the watchdog is armed, is the same. -/
structure Frame (before after : Engine) : Prop where
  config : after.config = before.config
  display : after.display = before.display
  timeout : after.watchdog.timeout = before.watchdog.timeout
  payload : after.payload = before.payload
  overwritten : after.overwritten = before.overwritten
  mode : after.mode = before.mode
  activity : after.activity = before.activity
  statistics : after.statistics = before.statistics

variable {engine after first second third : Engine}

namespace Frame

theorem refl (engine : Engine) : engine.Frame engine := by
  constructor <;> rfl

theorem trans (h : first.Frame second) (h' : second.Frame third) : first.Frame third where
  config := h'.config.trans h.config
  display := h'.display.trans h.display
  timeout := h'.timeout.trans h.timeout
  payload := h'.payload.trans h.payload
  overwritten := h'.overwritten.trans h.overwritten
  mode := h'.mode.trans h.mode
  activity := h'.activity.trans h.activity
  statistics := h'.statistics.trans h.statistics

theorem setBus (engine : Engine) (bus : Bus) : engine.Frame (engine.setBus bus) := by
  constructor <;> rfl

theorem modifyBus (engine : Engine) (f : Bus → Bus) : engine.Frame (engine.modifyBus f) :=
  .setBus engine (f engine.bus)

theorem modifyBoard (engine : Engine) (f : Board → Board) : engine.Frame (engine.modifyBoard f) :=
  .modifyBus engine _

theorem askBoard {α : Type} (engine : Engine) (f : Board → α × Board) :
    engine.Frame (engine.askBoard f).2 := by
  constructor <;> rfl

theorem rearm (engine : Engine) : engine.Frame engine.rearm := by
  constructor <;> rfl

theorem cancelWatchdog (engine : Engine) : engine.Frame engine.cancelWatchdog := by
  constructor <;> rfl

theorem acknowledged (engine : Engine) : engine.Frame engine.acknowledged := .modifyBoard engine _

theorem wake (engine : Engine) : engine.Frame engine.wake :=
  (modifyBus engine _).trans (.modifyBoard _ _)

theorem checked (engine : Engine) : engine.Frame engine.checked :=
  (wake engine).trans (.askBoard engine.wake _)

theorem attach (engine : Engine) : engine.Frame engine.attach := .modifyBoard engine _

theorem enableInterrupts (engine : Engine) : engine.Frame engine.enableInterrupts :=
  .modifyBoard engine _

theorem onBusEvent (engine : Engine) : engine.Frame engine.onBusEvent := by
  unfold Engine.onBusEvent
  split
  case h_1 => exact .modifyBus engine _
  case h_2 => exact .refl engine

theorem withMode (h : first.Frame second) (mode : Mode) :
    { first with mode }.Frame { second with mode } :=
  { h with mode := rfl }

theorem clearText (h : first.Frame second) : first.clearText.Frame second.clearText :=
  { h with display := congrArg Display.clear h.display }

end Frame

/-! ## Steps that change the engine -/

/-- A step that takes a controller into use changes the mode only. -/
theorem frame_adopt (engine : Engine) (controller : Controller) :
    { engine with mode := .ofController controller }.Frame (engine.adopt controller) :=
  (Frame.enableInterrupts _).trans (.rearm _)

theorem frame_launch (engine : Engine) (payload : Payload) :
    { engine.setPayload payload with activity := .inFlight }.Frame (engine.launch payload) := by
  constructor <;> rfl

/-- Opening a panel changes the payload and the cursor. -/
theorem frame_openPanel (engine : Engine) :
    (engine.setPayload
      (Oled.setupPayload engine.config.panel engine.display.backlight)).setCursor .firstRow
      |>.Frame engine.openPanel := by
  constructor <;> rfl

theorem frame_launchPanel (engine : Engine) :
    { engine.openPanel with activity := .inFlight }.Frame engine.launchPanel := by
  constructor <;> rfl

theorem mode_launchPanel (engine : Engine) (address : UInt8) :
    (engine.adopt (.bitmap address)).launchPanel.mode = .bitmap address .firstRow := rfl

theorem frame_shutDown (engine : Engine) :
    { engine with mode := .unknown }.Frame engine.shutDown :=
  (((Frame.modifyBoard engine _).trans (.cancelWatchdog _)).trans (.modifyBoard _ _)).withMode
    .unknown

/-- A failed bring-up is recorded, and the first of a boot forgets the display. -/
theorem frame_giveUp (engine : Engine) (firstBoot : Bool) (error : BringUpError) :
    { engine.recordFailure error.kind with
      mode := if firstBoot then .unknown else engine.mode }.Frame
        (engine.giveUp firstBoot error) := by
  cases firstBoot with
  | true => exact frame_shutDown (engine.recordFailure error.kind)
  | false => exact .rearm (engine.recordFailure error.kind)

/-- A bus error is recorded. -/
theorem frame_noted (engine : Engine) :
    (engine.recordFailure engine.errorKind).Frame engine.noted := by
  constructor <;> rfl

/-- A recovery is counted before the bring-up that it makes. -/
theorem frame_aborted (engine : Engine) :
    { engine.recordFailure engine.errorKind with
      statistics := ⟨engine.statistics.recoveries + 1, some engine.errorKind⟩ }.Frame
        engine.aborted := by
  constructor <;> rfl

/-- Naming the controller leaves everything alone, but a scan that finds one blanks the text. -/
theorem Identified.frame {controller : Controller} {identified : Engine}
    (h : engine.Identified controller identified) :
    engine.Frame identified ∨
      engine.mode = .unknown ∧ engine.clearText.Frame identified := by
  cases h with
  | known => exact .inl ((Frame.wake engine).trans (.attach _))
  | @found bus unknown =>
    refine .inr ⟨unknown, ?_⟩
    exact (((Frame.checked engine).trans (.attach _)).trans (.setBus _ bus)).clearText

/-! ## A known display -/

/-- A known controller leaves nothing to be looked for. -/
theorem Identified.eq_of_known {controller named : Controller} {identified : Engine}
    (h : engine.Identified named identified) (known : engine.mode.controller? = some controller) :
    named = controller ∧ identified = engine.wake.attach := by
  cases h with
  | known mode =>
    rw [known] at mode
    cases mode
    exact ⟨rfl, rfl⟩
  | found unknown =>
    rw [unknown] at known
    cases known

/-- A known controller is the one that a bring-up goes on with. -/
theorem Identified.of_known {controller named : Controller} {identified : Engine}
    (h : engine.Identified named identified) (known : engine.mode.controller? = some controller) :
    named = controller ∧ engine.Frame identified := by
  obtain ⟨same, rfl⟩ := h.eq_of_known known
  exact ⟨same, (Frame.wake engine).trans (.attach _)⟩

/-- The first payload of a controller. -/
def firstPayload (engine : Engine) : Controller → Payload
  | .character _ => Lcd.setupPayload engine.display.backlight
  | .bitmap _ => Oled.setupPayload engine.config.panel engine.display.backlight

/-- What a bring-up makes of a display that is known. -/
structure Restarted (before : Engine) (controller : Controller) (after : Engine) : Prop where
  config : after.config = before.config
  display : after.display = before.display
  mode : after.mode = .ofController controller
  payload : after.activity = .inFlight → after.payload = before.firstPayload controller

/-- Bringing up a known display keeps it, with its text, and goes back to the start of a frame. -/
theorem BroughtUp.restarted {controller : Controller} {result : Except BringUpError PowerOn}
    {after : Engine} (h : engine.BroughtUp result after)
    (known : engine.mode.controller? = some controller) : engine.Restarted controller after := by
  cases h with
  | floating unknown => rw [unknown] at known; cases known
  | undetected unknown => rw [unknown] at known; cases known
  | @unanswered address identified error bus named =>
    obtain ⟨rfl, frame⟩ := named.of_known known
    rw [known]
    have adopted := frame_adopt identified (.character address)
    have givenUp := frame_giveUp ((identified.adopt (.character address)).setBus bus) false
      (.bus error)
    refine ⟨?_, ?_, ?_, fun inFlight => ?_⟩
    · rw [Option.isNone_some, givenUp.config]
      simp only [recordFailure, setBus, adopted.config, frame.config]
    · rw [Option.isNone_some, givenUp.display]
      simp only [recordFailure, setBus, adopted.display, frame.display]
    · rw [Option.isNone_some, givenUp.mode]
      simp only [setBus, adopted.mode]
      rfl
    · rw [Option.isNone_some, givenUp.activity] at inFlight
      cases inFlight
  | @character address identified bus named =>
    obtain ⟨rfl, frame⟩ := named.of_known known
    have adopted := frame_adopt identified (.character address)
    have launched := frame_launch ((identified.adopt (.character address)).setBus bus)
      (Lcd.setupPayload (identified.adopt (.character address)).display.backlight)
    refine ⟨?_, ?_, ?_, fun _ => ?_⟩
    · rw [launched.config]
      simp only [setPayload, setBus, adopted.config, frame.config]
    · rw [launched.display]
      simp only [setPayload, setBus, adopted.display, frame.display]
    · rw [launched.mode]
      simp only [setPayload, setBus, adopted.mode]
    · rw [launched.payload]
      simp only [setPayload, firstPayload, adopted.display, frame.display]
  | @bitmap address identified named =>
    obtain ⟨rfl, frame⟩ := named.of_known known
    have adopted := frame_adopt identified (.bitmap address)
    have opened := frame_openPanel (identified.adopt (.bitmap address))
    have launched := frame_launchPanel (identified.adopt (.bitmap address))
    refine ⟨?_, ?_, ?_, fun _ => ?_⟩
    · rw [launched.config]
      simp only [opened.config, setCursor, setPayload, adopted.config, frame.config]
    · rw [launched.display]
      simp only [opened.display, setCursor, setPayload, adopted.display, frame.display]
    · exact mode_launchPanel identified address
    · rw [launched.payload]
      simp only [opened.payload, setCursor, setPayload, adopted.config, adopted.display,
        firstPayload, frame.config, frame.display]

theorem Recovered.restarted {controller : Controller} {after : Engine}
    (h : engine.Recovered after) (known : engine.mode.controller? = some controller) :
    engine.Restarted controller after := by
  have frame := engine.frame_aborted
  cases h with
  | unknown mode => rw [mode] at known; cases known
  | broughtUp _ result =>
    have kept : engine.aborted.mode.controller? = some controller := by
      rw [frame.mode]
      exact known
    have restarted := result.restarted kept
    refine ⟨restarted.config.trans frame.config, restarted.display.trans frame.display,
      restarted.mode, fun inFlight => ?_⟩
    rw [restarted.payload inFlight]
    cases controller with
    | character => rw [firstPayload, frame.display]; rfl
    | bitmap => rw [firstPayload, frame.display, frame.config]; rfl

/-! ## What no step changes -/

/-- What an engine was set up with. -/
structure SameSetup (before after : Engine) : Prop where
  config : after.config = before.config
  timeout : after.watchdog.timeout = before.watchdog.timeout

theorem SameSetup.trans (h : first.SameSetup second)
    (h' : second.SameSetup third) : first.SameSetup third :=
  ⟨h'.config.trans h.config, h'.timeout.trans h.timeout⟩

theorem Frame.sameSetup (h : engine.Frame after) : engine.SameSetup after := ⟨h.config, h.timeout⟩

theorem Identified.sameSetup {controller : Controller} (h : engine.Identified controller after) :
    engine.SameSetup after := by
  obtain frame | ⟨_, frame⟩ := h.frame
  · exact frame.sameSetup
  · exact ⟨frame.config, frame.timeout⟩

theorem sameSetup_adopt (engine : Engine) (controller : Controller) :
    engine.SameSetup (engine.adopt controller) :=
  ⟨(frame_adopt engine controller).config, (frame_adopt engine controller).timeout⟩

theorem sameSetup_giveUp (engine : Engine) (firstBoot : Bool) (error : BringUpError) :
    engine.SameSetup (engine.giveUp firstBoot error) :=
  ⟨(frame_giveUp engine firstBoot error).config, (frame_giveUp engine firstBoot error).timeout⟩

theorem sameSetup_launch (engine : Engine) (payload : Payload) :
    engine.SameSetup (engine.launch payload) :=
  ⟨(frame_launch engine payload).config, (frame_launch engine payload).timeout⟩

theorem sameSetup_openPanel (engine : Engine) : engine.SameSetup engine.openPanel :=
  ⟨(frame_openPanel engine).config, (frame_openPanel engine).timeout⟩

theorem sameSetup_launchPanel (engine : Engine) : engine.SameSetup engine.launchPanel :=
  engine.sameSetup_openPanel.trans
    ⟨(frame_launchPanel engine).config, (frame_launchPanel engine).timeout⟩

theorem BroughtUp.sameSetup {result : Except BringUpError PowerOn}
    (h : engine.BroughtUp result after) : engine.SameSetup after := by
  cases h with
  | floating => exact (Frame.checked engine).sameSetup.trans (sameSetup_giveUp _ _ _)
  | undetected =>
    have frame := (Frame.checked engine).trans (.attach _)
    exact (frame.trans (.setBus _ _)).sameSetup.trans (sameSetup_giveUp _ _ _)
  | unanswered named =>
    exact ((named.sameSetup.trans (sameSetup_adopt _ _)).trans
      (Frame.setBus _ _).sameSetup).trans (sameSetup_giveUp _ _ _)
  | character named =>
    exact ((named.sameSetup.trans (sameSetup_adopt _ _)).trans
      (Frame.setBus _ _).sameSetup).trans (sameSetup_launch _ _)
  | bitmap named =>
    exact (named.sameSetup.trans (sameSetup_adopt _ _)).trans (sameSetup_launchPanel _)

theorem TransferDone.sameSetup (h : engine.TransferDone after) : engine.SameSetup after := by
  cases h <;> exact ⟨rfl, rfl⟩

theorem sameSetup_aborted (engine : Engine) : engine.SameSetup engine.aborted :=
  ⟨engine.frame_aborted.config, engine.frame_aborted.timeout⟩

theorem Recovered.sameSetup (h : engine.Recovered after) : engine.SameSetup after := by
  cases h with
  | unknown => exact ⟨engine.frame_noted.config, engine.frame_noted.timeout⟩
  | broughtUp _ result => exact engine.sameSetup_aborted.trans result.sameSetup

/-! ## The longest wait for the bus -/

theorem patience_modifyBoard (engine : Engine) (f : Board → Board) :
    (engine.modifyBoard f).bus.timeout = engine.bus.timeout := rfl

theorem patience_askBoard {α : Type} (engine : Engine) (f : Board → α × Board) :
    (engine.askBoard f).2.bus.timeout = engine.bus.timeout := rfl

theorem patience_rearm (engine : Engine) : engine.rearm.bus.timeout = engine.bus.timeout := rfl

theorem patience_wake (engine : Engine) : engine.wake.bus.timeout = engine.bus.timeout :=
  patience_modifyBoard (engine.modifyBus Bus.revive) _

theorem patience_checked (engine : Engine) : engine.checked.bus.timeout = engine.bus.timeout :=
  (engine.wake.patience_askBoard _).trans engine.patience_wake

theorem patience_attach (engine : Engine) : engine.attach.bus.timeout = engine.bus.timeout :=
  engine.patience_modifyBoard _

theorem patience_adopt (engine : Engine) (controller : Controller) :
    (engine.adopt controller).bus.timeout = engine.bus.timeout :=
  (patience_rearm _).trans (patience_modifyBoard { engine with mode := .ofController controller } _)

theorem patience_shutDown (engine : Engine) : engine.shutDown.bus.timeout = engine.bus.timeout :=
  patience_modifyBoard (engine.modifyBoard _).cancelWatchdog _

theorem patience_giveUp (engine : Engine) (firstBoot : Bool) (error : BringUpError) :
    (engine.giveUp firstBoot error).bus.timeout = engine.bus.timeout := by
  cases firstBoot with
  | true => exact patience_shutDown (engine.recordFailure error.kind)
  | false => exact patience_rearm (engine.recordFailure error.kind)

theorem patience_startTransfer (engine : Engine) :
    engine.startTransfer.bus.timeout = engine.bus.timeout :=
  (patience_rearm _).trans (engine.patience_modifyBoard _)

theorem patience_launch (engine : Engine) (payload : Payload) :
    (engine.launch payload).bus.timeout = engine.bus.timeout :=
  (patience_startTransfer _).trans (patience_modifyBoard (engine.setPayload payload) _)

theorem patience_launchPanel (engine : Engine) :
    engine.launchPanel.bus.timeout = engine.bus.timeout :=
  patience_startTransfer _

theorem Identified.patience {controller : Controller} (h : engine.Identified controller after) :
    after.bus.timeout = engine.bus.timeout := by
  cases h with
  | known => exact (patience_attach _).trans (patience_wake engine)
  | @found bus _ _ scan =>
    have traffic := (Bus.isTraffic_detect engine.config).of_ok scan
    have timeout : bus.timeout = _ := traffic.timeout
    exact timeout.trans ((patience_attach _).trans (patience_checked engine))

theorem BroughtUp.patience {result : Except BringUpError PowerOn}
    (h : engine.BroughtUp result after) : after.bus.timeout = engine.bus.timeout := by
  cases h with
  | floating => exact (patience_giveUp _ _ _).trans (patience_checked engine)
  | @undetected error bus _ _ scan =>
    have traffic := (Bus.isTraffic_detect engine.config).of_error scan
    have attached := (patience_attach engine.checked).trans (patience_checked engine)
    exact (patience_giveUp (engine.checked.attach.setBus bus) true error).trans
      (traffic.timeout.trans attached)
  | @unanswered address identified error bus named silent =>
    have traffic := (Bus.isTraffic_handshake address).of_error silent
    have adopted := (patience_adopt identified (.character address)).trans named.patience
    exact (patience_giveUp ((identified.adopt (.character address)).setBus bus) _ _).trans
      (traffic.timeout.trans adopted)
  | @character address identified bus named answered =>
    have traffic := (Bus.isTraffic_handshake address).of_ok answered
    have adopted := (patience_adopt identified (.character address)).trans named.patience
    exact (patience_launch ((identified.adopt (.character address)).setBus bus) _).trans
      (traffic.timeout.trans adopted)
  | @bitmap address identified named =>
    exact (patience_launchPanel _).trans
      ((patience_adopt identified (.bitmap address)).trans named.patience)

end StatusDisplay.Engine
