import StatusDisplay.Proofs.Engine.Detection
import StatusDisplay.Proofs.Engine.Transfers

/-!
# The first bring-up of a boot

What the first bring-up comes to is decided by the world alone: by its lines, by whether the bus moves,
and by the first address of the scan at which there is a device (`World.firstBoot`). Each way of ending
it leaves either a driver that has given up and forgotten the display, or one that has started it on
blank text (`LeftBy`).
-/

namespace StatusDisplay

/-- What the first bring-up of a boot comes to. -/
def World.firstBoot (world : World) (config : Config) : Except BringUpError PowerOn :=
  if world.linesLow then .error .invalidBus
  else if world.stuck then .error (.bus .timeout)
  else match config.firstDevice? world with
    | none => .error .noDeviceFound
    | some address =>
      if world.holdBytes then .error (.bus .timeout)
      else .ok ⟨.classify config address, true⟩

/-- The address of a character display that was found: it is tried once more, for the handshake. -/
def PowerOn.handshakes : Except BringUpError PowerOn → List UInt8
  | .ok ⟨.character address, _⟩ => [address]
  | _ => []

/-- Calls that put the bus master to work. -/
def Call.engages : Call → Bool
  | .requestStart | .configure _ | .startTransfer _ => true
  | _ => false

namespace World

variable {world : World} {config : Config}

theorem firstBoot_of_stuck (pulled : world.linesLow = false) (stuck : world.stuck = true) :
    world.firstBoot config = .error (.bus .timeout) := by
  rw [firstBoot, pulled, stuck]
  rfl

/-- On a bus that is free the scan decides. -/
theorem firstBoot_of_free (pulled : world.linesLow = false) (free : world.stuck = false) :
    world.firstBoot config = match config.firstDevice? world with
      | none => .error .noDeviceFound
      | some address =>
        if world.holdBytes then .error (.bus .timeout)
        else .ok ⟨.classify config address, true⟩ := by
  rw [firstBoot, pulled, free]
  rfl

theorem firstBoot_eq_invalidBus_iff :
    world.firstBoot config = .error .invalidBus ↔ world.linesLow = true := by
  refine ⟨fun refused => ?_, fun low => if_pos low⟩
  cases low : world.linesLow with
  | true => rfl
  | false =>
    cases stuck : world.stuck with
    | true =>
      rw [firstBoot_of_stuck low stuck] at refused
      cases refused
    | false =>
      rw [firstBoot_of_free low stuck] at refused
      split at refused
      case h_1 => cases refused
      case h_2 => split at refused <;> cases refused

/-- A display that is found is the first device of the scan. -/
theorem firstDevice?_of_firstBoot {powerOn : PowerOn}
    (boots : world.firstBoot config = .ok powerOn) :
    config.firstDevice? world = some powerOn.controller.address := by
  cases low : world.linesLow with
  | true =>
    rw [firstBoot_eq_invalidBus_iff.2 low] at boots
    cases boots
  | false =>
    cases stuck : world.stuck with
    | true =>
      rw [firstBoot_of_stuck low stuck] at boots
      cases boots
    | false =>
      rw [firstBoot_of_free low stuck] at boots
      split at boots
      case h_1 => cases boots
      case h_2 found =>
        split at boots
        case isTrue => cases boots
        case isFalse =>
          cases boots
          rw [Controller.address_classify, found]

end World

namespace Engine

variable {engine after : Engine}

/-- A display that was just found is refreshed with blank text. -/
structure Started (engine : Engine) (controller : Controller) (after : Engine) : Prop where
  activity : after.activity = .inFlight
  mode : after.mode = .ofController controller
  text : after.display.text = .empty
  payload : after.payload = engine.firstPayload controller

/-- What the first bring-up of a boot leaves behind. -/
def LeftBy (engine : Engine) (after : Engine) : Except BringUpError PowerOn → Prop
  | .error _ => after.activity = .failed ∧ after.mode = .unknown
  | .ok powerOn => engine.Started powerOn.controller after

/-- What the first bring-up of a boot transfers. -/
def firstTransfers (engine : Engine) : Except BringUpError PowerOn → List (List UInt8)
  | .error _ => []
  | .ok powerOn => [(engine.firstPayload powerOn.controller).bytes]

/-! ## Giving up -/

theorem leftBy_giveUp (engine stopped : Engine) (error : BringUpError) :
    engine.LeftBy (stopped.giveUp true error) (.error error) := by
  have given := stopped.frame_giveUp true error
  exact ⟨given.activity, given.mode⟩

section Unknown

variable (unknown : engine.mode = .unknown)
include unknown

theorem isNone_of_unknown : engine.mode.controller?.isNone = true := by
  rw [mode_eq_unknown_iff.1 unknown]
  rfl

/-- On lines that are low the bus master is not put to work. -/
theorem bringUp_of_linesLow (low : engine.pulledUp = false) : ∃ after,
    engine.bringUp = .ok (.error .invalidBus, after) ∧
      engine.board.Makes (fun call => !call.engages) after.board ∧
      engine.LeftBy after (.error .invalidBus) := by
  have stopped := identify_of_unknown unknown
  rw [low, if_neg Bool.noConfusion] at stopped
  have given := bringUp_of_stopped stopped
  rw [isNone_of_unknown unknown] at given
  have wiring (call : Call) (wiring : call.isWiring = true) : (!call.engages) = true := by
    cases call <;> first | rfl | cases wiring
  have woken : engine.board.Makes (fun call => !call.engages) engine.wake.board :=
    engine.makes_wake_of_wiring rfl wiring
  have shutDown := (engine.checked.recordFailure BringUpError.invalidBus.kind).exchange_shutDown
  exact ⟨_, given, (woken.trans (engine.makes_checked.mono wiring)).trans (.of_exchange shutDown rfl),
    leftBy_giveUp _ _ _⟩

/-- A scan that finds nothing ends the bring-up. -/
theorem bringUp_of_undetected (pulled : engine.pulledUp = true) {error : BringUpError} {bus : Bus}
    (scan : Bus.detect engine.config engine.scanned = .error error bus) : ∃ after,
    engine.bringUp = .ok (.error error, after) ∧ after.board.scene = bus.board.scene ∧
      engine.LeftBy after (.error error) := by
  have stopped := identify_of_unknown unknown
  rw [pulled, if_pos rfl, detect_of_error scan] at stopped
  have given := bringUp_of_stopped stopped
  rw [isNone_of_unknown unknown] at given
  exact ⟨_, given, scene_giveUp _ true error, leftBy_giveUp _ _ _⟩

end Unknown

/-! ## The start of the refresh -/

/-- A display that answers is started, on the text that the engine has blanked. -/
theorem exists_startRefresh {identified : Engine} {controller : Controller} {world : World}
    {bytes : List UInt8} {starts : Nat} (frame : engine.clearText.Frame identified)
    (on : identified.bus.On (Bus.resting world bytes starts)) (quiet : world.statusWords = [])
    (free : world.stuck = false) (moving : world.holdBytes = false)
    (device : world.devices.contains (addressOf (controller.address <<< 1)) = true) :
    ∃ after, (identified.adopt controller).startRefresh controller = .ok (.ok (), after) ∧
      identified.board.Tried after.board (PowerOn.handshakes (.ok ⟨controller, true⟩)) ∧
      engine.Started controller after := by
  have adopted := frame_adopt identified controller
  have display : (identified.adopt controller).display = engine.display.clear :=
    adopted.display.trans frame.display
  have config : (identified.adopt controller).config = engine.config :=
    adopted.config.trans frame.config
  have blank : engine.display.clear.text = .empty := Text.Grid.clear_eq_empty _
  have before : identified.board.wire.addressBytes = bytes := congrArg Scene.addressBytes on.scene
  have on := on_adopt on controller
  have mode := adopted.mode
  unfold Board.Tried
  rw [before]
  generalize identified.adopt controller = ready at display config on mode
  cases controller with
  | character address =>
    obtain ⟨_, bus, answered, left⟩ := Bus.succeeds_handshake quiet free moving device _ on
    refine ⟨_, startRefresh_of_ok answered, ?_, rfl, mode, ?_, ?_⟩
    · exact congrArg Scene.addressBytes ((scene_launch (ready.setBus bus) _).trans left.scene)
    · exact (congrArg Display.text display).trans blank
    · exact congrArg (fun display => Lcd.setupPayload display.backlight) display
  | bitmap address =>
    have opened : ready.launchPanel.mode = .bitmap address .firstRow :=
      congrArg (·.withCursor .firstRow) mode
    refine ⟨_, startRefresh_bitmap ready address, ?_, rfl, opened, ?_, ?_⟩
    · exact ready.addressBytes_launchPanel.trans (congrArg Scene.addressBytes on.scene)
    · exact (congrArg Display.text display).trans blank
    · show Oled.setupPayload ready.config.panel ready.display.backlight = _
      rw [config, display]
      rfl

/-- A display that was found on a bus that moves is started. -/
theorem bringUp_of_detected {controller : Controller} {next : Bus} {bytes : List UInt8}
    {starts : Nat} (unknown : engine.mode = .unknown) (quiet : engine.board.world.statusWords = [])
    (pulled : engine.pulledUp = true)
    (detected : Bus.detect engine.config engine.scanned = .ok controller next)
    (on : next.On (Bus.resting engine.board.world.offLines bytes starts))
    (free : engine.board.world.stuck = false) (moving : engine.board.world.holdBytes = false)
    (device : engine.board.world.devices.contains (addressOf (controller.address <<< 1)) = true) :
    ∃ after, engine.bringUp = .ok (.ok ⟨controller, true⟩, after) ∧
      next.board.Tried after.board (PowerOn.handshakes (.ok ⟨controller, true⟩)) ∧
      engine.Started controller after := by
  have named : engine.wake.identify engine.mode.controller? =
      (.ok controller, (engine.checked.attach.setBus next).clearText) := by
    rw [identify_of_unknown unknown, pulled, if_pos rfl, detect_of_ok detected]
  have frame : engine.clearText.Frame (engine.checked.attach.setBus next).clearText :=
    (((Frame.checked engine).trans (.attach _)).trans (.setBus _ next)).clearText
  have words : engine.board.world.offLines.statusWords = [] := quiet
  obtain ⟨after, started, tried, left⟩ := exists_startRefresh frame on words free moving device
  have given := bringUp_of_started named started
  rw [isNone_of_unknown unknown] at given
  exact ⟨after, given, tried, left⟩

/-- On a free bus that is pulled up the first device decides. -/
theorem bringUp_of_free (unknown : engine.mode = .unknown) (fresh : engine.board.Fresh)
    (short : ∀ address ∈ engine.config.scanOrder, addressOf (address <<< 1) = address)
    (pulled : engine.board.world.linesLow = false) (free : engine.board.world.stuck = false) :
    ∃ after, engine.bringUp = .ok (engine.board.world.firstBoot engine.config, after) ∧
      engine.board.Tried after.board (engine.config.probed engine.board.world ++
        PowerOn.handshakes (engine.board.world.firstBoot engine.config)) ∧
      engine.LeftBy after (engine.board.world.firstBoot engine.config) := by
  have checked : engine.pulledUp = true := by
    rw [pulledUp_of_unforced fresh.levels, pulled]
    rfl
  rw [World.firstBoot_of_free pulled free]
  cases found : engine.config.firstDevice? engine.board.world with
  | none =>
    obtain ⟨next, scan, tried⟩ := detect_of_absent fresh short free found
    obtain ⟨after, given, scene, left⟩ := bringUp_of_undetected unknown checked scan
    refine ⟨after, given, ?_, left⟩
    show engine.board.Tried after.board (_ ++ [])
    rw [List.append_nil]
    exact tried.of_scene scene
  | some address =>
    dsimp only
    cases held : engine.board.world.holdBytes with
    | true =>
      obtain ⟨next, scan, tried⟩ := detect_of_held fresh short free found held
      obtain ⟨after, given, scene, left⟩ := bringUp_of_undetected unknown checked scan
      refine ⟨after, given, ?_, left⟩
      show engine.board.Tried after.board (_ ++ [])
      rw [List.append_nil]
      exact tried.of_scene scene
    | false =>
      obtain ⟨next, bytes, starts, detected, on, tried⟩ :=
        detect_of_device fresh short free found held
      have device : engine.board.world.devices.contains
          (addressOf ((Controller.classify engine.config address).address <<< 1)) = true := by
        rw [Controller.address_classify]
        exact Config.contains_of_firstDevice? found short
      obtain ⟨after, given, again, started⟩ :=
        bringUp_of_detected unknown fresh.words checked detected on free held device
      exact ⟨after, given, tried.trans again, started⟩

/-- The first bring-up of a boot, whatever the world is like. -/
theorem bringUp_of_fresh (unknown : engine.mode = .unknown) (fresh : engine.board.Fresh)
    (valid : engine.config.validate = .ok ())
    (short : ∀ address ∈ engine.config.scanOrder, addressOf (address <<< 1) = address) :
    ∃ after, engine.bringUp = .ok (engine.board.world.firstBoot engine.config, after) ∧
      engine.LeftBy after (engine.board.world.firstBoot engine.config) ∧
      (engine.board.world.linesLow = true →
        engine.board.Makes (fun call => !call.engages) after.board) ∧
      (engine.board.world.linesLow = false → engine.board.world.stuck = true →
        after.board.scene.starts = engine.board.scene.starts + 1) ∧
      (engine.board.world.linesLow = false → engine.board.world.stuck = false →
        engine.board.Tried after.board (engine.config.probed engine.board.world ++
          PowerOn.handshakes (engine.board.world.firstBoot engine.config))) := by
  have checked := pulledUp_of_unforced fresh.levels
  cases low : engine.board.world.linesLow with
  | true =>
    rw [low] at checked
    obtain ⟨after, given, idle, left⟩ := bringUp_of_linesLow unknown checked
    rw [World.firstBoot_eq_invalidBus_iff.2 low]
    exact ⟨after, given, left, fun _ => idle, nofun, nofun⟩
  | false =>
    rw [low] at checked
    cases stuck : engine.board.world.stuck with
    | true =>
      obtain ⟨next, scan, starts, _⟩ := detect_of_stuck fresh valid stuck
      obtain ⟨after, given, scene, left⟩ := bringUp_of_undetected unknown checked scan
      have once := (congrArg Scene.starts scene).trans starts
      rw [World.firstBoot_of_stuck low stuck]
      exact ⟨after, given, left, nofun, fun _ _ => once, nofun⟩
    | false =>
      obtain ⟨after, given, tried, left⟩ := bringUp_of_free unknown fresh short low stuck
      exact ⟨after, given, left, nofun, nofun, fun _ _ => tried⟩

end Engine

end StatusDisplay
