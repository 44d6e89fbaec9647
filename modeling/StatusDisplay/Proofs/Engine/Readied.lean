import StatusDisplay.Proofs.Board.Present
import StatusDisplay.Proofs.Engine.Standing

/-!
# Ready to start again

A bus error of a known display comes to the same point whatever has gone before: the bus master is
reset, powered and attached, and the display is in use again (`readied`). What is left is the start
of the refresh. It fails only if a character display does not answer its handshake, so the outcome
of the bus error is one of three engines.
-/

namespace StatusDisplay

/-- The board of a driver that has just reset its bus master while that had the lines. -/
def Board.resetIn (world : World) : Board where
  master := { powered := true }
  scl := ⟨.busMaster, false⟩
  sda := ⟨.busMaster, false⟩
  world := world

/-- The settings of a board whose display was just taken into use. -/
def Settings.ready (priority : UInt8) (timeout : Nat) : Settings where
  powered := true
  enabled := true
  eventIrq := false
  errorIrq := true
  transferRequests := false
  transferActive := false
  scl := ⟨.busMaster, false⟩
  sda := ⟨.busMaster, false⟩
  irqs :=
    ⟨⟨true, some priority, false⟩, ⟨true, some priority, false⟩, ⟨true, some priority, false⟩⟩
  alarm := some timeout
  speed := some .standard

namespace Engine

variable {engine : Engine} {controller : Controller} {address : UInt8}

/-- The engine that has taken its display into use again after a bus error. -/
def readied (engine : Engine) (controller : Controller) : Engine :=
  engine.aborted.wake.attach.adopt controller

theorem alive_readied (engine : Engine) (controller : Controller) :
    (engine.readied controller).bus.alive = true := rfl

/-- What the engine is once it is readied, apart from its bus. -/
theorem frame_readied (engine : Engine) (controller : Controller) :
    { engine.recordFailure engine.errorKind with
      mode := .ofController controller
      statistics := ⟨engine.statistics.recoveries + 1, some engine.errorKind⟩ }.Frame
        (engine.readied controller) :=
  ((engine.frame_aborted.trans ((Frame.wake _).trans (.attach _))).withMode
    (.ofController controller)).trans (frame_adopt _ controller)

/-- The board of a live engine that has aborted its transfer is told by its world and its past. -/
theorem Live.present_aborted (h : engine.Live) :
    engine.aborted.board.present = Board.resetIn engine.board.world := by
  have powered := h.powered
  have scl : engine.board.scl = ⟨.busMaster, false⟩ := h.lines .scl
  have sda : engine.board.sda = ⟨.busMaster, false⟩ := h.lines .sda
  show ({
    master := { powered := engine.board.master.powered }
    scl := engine.board.scl
    sda := engine.board.sda
    world := engine.board.world } : Board) = _
  rw [powered, scl, sda]
  rfl

/-- Of the settings nothing is left over from before the bus error. -/
theorem settings_readied (engine : Engine) (controller : Controller) :
    (engine.readied controller).board.settings =
      .ready engine.config.irqPriority engine.watchdog.timeout := by
  have attached := (exchange_attach engine.aborted.wake).settings_eq
  have adopted := (exchange_adopt engine.aborted.wake.attach controller).settings_eq
  rw [attached, settings_wake] at adopted
  exact adopted

theorem watchdog_eq {watchdog watchdog' : Watchdog} (timeout : watchdog.timeout = watchdog'.timeout)
    (armed : watchdog.armed = watchdog'.armed) : watchdog = watchdog' := by
  cases watchdog
  cases watchdog'
  exact congr (congrArg Watchdog.mk timeout) armed

/-! ## The same calls -/

/-- On boards that are wired alike the lines are freed with the same calls. -/
theorem together_wake {first second : Engine} (wired : first.board.Wired second.board) :
    first.board.Together second.board first.wake.board second.wake.board := by
  have powered : first.board.Together second.board (first.board.setPowered true)
      (second.board.setPowered true) := ⟨[.setPowered true], .single rfl, .single rfl⟩
  exact powered.trans (Board.together_releaseLines (powered.wired wired))

theorem together_giveUp (first second : Engine)
    (watchdog : first.watchdog.timeout = second.watchdog.timeout) (firstBoot : Bool)
    (error : BringUpError) : first.board.Together second.board (first.giveUp firstBoot error).board
      (second.giveUp firstBoot error).board := by
  cases firstBoot with
  | true =>
    exact ⟨_, (first.recordFailure error.kind).exchange_shutDown,
      (second.recordFailure error.kind).exchange_shutDown⟩
  | false =>
    have rearmed := (second.recordFailure error.kind).exchange_rearm
    have same : (second.recordFailure error.kind).watchdog.timeout =
        (first.recordFailure error.kind).watchdog.timeout := watchdog.symm
    rw [same] at rearmed
    exact ⟨_, (first.recordFailure error.kind).exchange_rearm, rearmed⟩

/-! ## The outcome of a bus error -/

theorem controller?_aborted (known : engine.mode.controller? = some controller) :
    engine.aborted.mode.controller? = some controller := known

theorem onBusError_of_answered {bus : Bus}
    (known : engine.mode.controller? = some (.character address))
    (answered : Bus.handshake address (engine.readied (.character address)).bus = .ok () bus) :
    engine.onBusError = .ok (((engine.readied (.character address)).setBus bus).launch
      (Lcd.setupPayload engine.display.backlight)) :=
  onBusError_of_known known
    (bringUp_of_started (identify_of_known (controller?_aborted known)) (startRefresh_of_ok answered))

theorem onBusError_of_silent {error : BusError} {bus : Bus}
    (known : engine.mode.controller? = some (.character address))
    (silent : Bus.handshake address (engine.readied (.character address)).bus = .error error bus) :
    engine.onBusError =
      .ok (((engine.readied (.character address)).setBus bus).giveUp false (.bus error)) := by
  have aborted := controller?_aborted known
  have given := bringUp_of_unstarted (identify_of_known aborted) (startRefresh_of_error silent)
  rw [aborted] at given
  exact onBusError_of_known known given

theorem onBusError_of_panel (known : engine.mode.controller? = some (.bitmap address)) :
    engine.onBusError = .ok (engine.readied (.bitmap address)).launchPanel :=
  onBusError_of_known known
    (bringUp_of_started (identify_of_known (controller?_aborted known)) (startRefresh_bitmap _ address))

end Engine

end StatusDisplay
