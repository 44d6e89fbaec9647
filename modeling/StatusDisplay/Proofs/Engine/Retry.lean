import StatusDisplay.Proofs.Bus.Leftover
import StatusDisplay.Proofs.Engine.FirstBoot
import StatusDisplay.Proofs.Engine.Twins

/-!
# Another first bring-up

An engine that has not found its display yet may have looked for it before. What such a search can leave
behind is the phase of the bus master, a dead bus, interrupts that were set up, and records of failures.
None of it decides anything for the next bring-up: the bus is revived and the lines are freed, the first
start condition makes the bus masters alike, and from the display that is found on the engines are twins.
-/

namespace StatusDisplay

/-- The board of a bus master that was just attached, wherever the last transaction has stopped. -/
def Board.attachedIn (world : World) (phase : Phase) : Board where
  master := { powered := true, enabled := true, phase }
  scl := ⟨.busMaster, false⟩
  sda := ⟨.busMaster, false⟩
  world := world

/-- Once the bus master is attached with no transfer and no alarm, its phase is all that is left. -/
theorem Board.present_of_attached {board : Board} {settings : Settings}
    (attached : board.settings = settings.attached) (inactive : settings.transferActive = false)
    (alarm : settings.alarm = none) (flags : board.master.flags = .none) :
    board.present = .attachedIn board.world board.master.phase := by
  have master : board.master =
      { powered := true, enabled := true, phase := board.master.phase } := by
    have powered : board.master.powered = true := congrArg Settings.powered attached
    have enabled : board.master.enabled = true := congrArg Settings.enabled attached
    have eventIrq : board.master.eventIrq = false := congrArg Settings.eventIrq attached
    have errorIrq : board.master.errorIrq = false := congrArg Settings.errorIrq attached
    have requests : board.master.transferRequests = false :=
      congrArg Settings.transferRequests attached
    revert flags powered enabled eventIrq errorIrq requests
    generalize board.master = master
    intro flags powered enabled eventIrq errorIrq requests
    cases master
    rw [BusMaster.mk.injEq]
    exact ⟨powered, enabled, flags, rfl, eventIrq, errorIrq, requests⟩
  have still : board.transferActive = false :=
    (congrArg Settings.transferActive attached).trans inactive
  have scl : board.scl = ⟨.busMaster, false⟩ := congrArg Settings.scl attached
  have sda : board.sda = ⟨.busMaster, false⟩ := congrArg Settings.sda attached
  have quiet : board.alarm = none := (congrArg Settings.alarm attached).trans alarm
  unfold present attachedIn
  rw [still, scl, sda, quiet, master]

theorem Board.Calm.of_scene {before after : Board} (calm : before.Calm)
    (same : after.scene = before.scene) : after.Calm where
  flags := (congrArg Scene.flags same).trans calm.flags
  words := (congrArg (fun scene => scene.world.statusWords) same).trans calm.words

namespace Engine

variable {engine after first second : Engine} {controller : Controller}
  {result : Except BringUpError PowerOn}

/-- No display was found so far: nothing is flagged, and nothing was recovered. -/
structure Unbooted (engine : Engine) : Prop where
  mode : engine.mode = .unknown
  calm : engine.board.Calm
  recoveries : engine.statistics.recoveries = 0
  timed : engine.watchdog.timeout = engine.config.watchdogTimeout
  patience : engine.bus.timeout = engine.config.busTimeout

/-! ## What a bring-up leaves -/

theorem Identified.calm (h : engine.Identified controller after) (calm : engine.board.Calm) :
    after.board.Calm := by
  cases h with
  | known => exact calm.of_scene ((scene_attach _).trans engine.scene_wake)
  | found _ _ scan =>
    have before : engine.checked.attach.board.Calm :=
      calm.of_scene ((scene_attach _).trans engine.scene_checked)
    have left := Bus.calm_detect before engine.config
    have found : Bus.detect engine.config engine.checked.attach.bus = _ := scan
    rw [found] at left
    exact left

/-- A bring-up that ends without a display leaves no flags behind. -/
theorem BroughtUp.calm (h : engine.BroughtUp result after) (unknown : after.mode = .unknown)
    (calm : engine.board.Calm) : after.board.Calm := by
  cases h with
  | floating => exact calm.of_scene ((scene_giveUp _ _ _).trans engine.scene_checked)
  | undetected _ _ scan =>
    have before : engine.checked.attach.board.Calm :=
      calm.of_scene ((scene_attach _).trans engine.scene_checked)
    have left := Bus.calm_detect before engine.config
    have absent : Bus.detect engine.config engine.checked.attach.bus = _ := scan
    rw [absent] at left
    exact left.of_scene (scene_giveUp _ _ _)
  | @unanswered address identified error bus named answer =>
    have adopted := (named.calm calm).of_scene (scene_adopt identified (.character address))
    have left := (Bus.meets_handshake address).calm adopted
    have silent : Bus.handshake address (identified.adopt (.character address)).bus = _ := answer
    rw [silent] at left
    exact left.of_scene (scene_giveUp _ _ _)
  | character => cases unknown
  | bitmap => cases unknown

theorem Identified.statistics (h : engine.Identified controller after) :
    after.statistics = engine.statistics := by
  obtain frame | ⟨_, frame⟩ := h.frame
  · exact frame.statistics
  · exact frame.statistics

theorem statistics_giveUp (engine : Engine) (firstBoot : Bool) (error : BringUpError) :
    (engine.giveUp firstBoot error).statistics =
      { engine.statistics with lastFailure := some error.kind } := by
  rw [(frame_giveUp engine firstBoot error).statistics]
  rfl

/-- A bring-up records its own failure and nothing else. -/
theorem BroughtUp.statistics (h : engine.BroughtUp result after) : after.statistics =
    match result with
    | .ok _ => engine.statistics
    | .error error => { engine.statistics with lastFailure := some error.kind } := by
  cases h with
  | floating => rw [statistics_giveUp, (Frame.checked engine).statistics]
  | @undetected error bus =>
    have frame := ((Frame.checked engine).trans (.attach _)).trans (.setBus _ bus)
    rw [statistics_giveUp, frame.statistics]
  | @unanswered address identified error bus named =>
    have adopted := (frame_adopt identified (.character address)).trans (.setBus _ bus)
    rw [statistics_giveUp, adopted.statistics, named.statistics]
  | @character address identified bus named =>
    have adopted := frame_adopt identified (.character address)
    rw [(frame_launch _ _).statistics]
    simp only [setPayload, setBus, adopted.statistics, named.statistics]
  | @bitmap address identified named =>
    have adopted := frame_adopt identified (.bitmap address)
    have opened := frame_openPanel (identified.adopt (.bitmap address))
    rw [(frame_launchPanel _).statistics]
    simp only [opened.statistics, setCursor, setPayload, adopted.statistics, named.statistics]

/-- The first bring-up of a boot leaves the engine as its result says. -/
theorem BroughtUp.leftBy (h : engine.BroughtUp result after) (unknown : engine.mode = .unknown) :
    engine.LeftBy after result := by
  have blank {controller : Controller} {identified : Engine}
      (named : engine.Identified controller identified) :
      engine.clearText.Frame identified := by
    cases named with
    | known known =>
      rw [unknown] at known
      cases known
    | @found bus =>
      exact (((Frame.checked engine).trans (.attach _)).trans (.setBus _ bus)).clearText
  have empty : engine.clearText.display.text = .empty := Text.Grid.clear_eq_empty _
  cases h with
  | floating => exact leftBy_giveUp _ _ _
  | undetected => exact leftBy_giveUp _ _ _
  | unanswered =>
    rw [isNone_of_unknown unknown]
    exact leftBy_giveUp _ _ _
  | @character address identified bus named =>
    have frame := blank named
    refine ⟨rfl, rfl, (congrArg Display.text frame.display).trans empty, ?_⟩
    show Lcd.setupPayload identified.display.backlight = _
    rw [frame.display]
    rfl
  | @bitmap address identified named =>
    have frame := blank named
    refine ⟨rfl, rfl, (congrArg Display.text frame.display).trans empty, ?_⟩
    show Oled.setupPayload identified.config.panel identified.display.backlight = _
    rw [frame.config, frame.display]
    rfl

/-- What the first bring-up of a boot leaves is told by its result. -/
theorem LeftBy.same {after' : Engine} (left : first.LeftBy after result)
    (left' : second.LeftBy after' result) :
    after.activity = after'.activity ∧ after.mode = after'.mode := by
  cases result with
  | error => exact ⟨left.1.trans left'.1.symm, left.2.trans left'.2.symm⟩
  | ok => exact ⟨left.activity.trans left'.activity.symm, left.mode.trans left'.mode.symm⟩

/-! ## Two engines without a display -/

/-- Nothing but the phase of the bus master is left of earlier searches when the scan begins. -/
theorem present_attached (calm : engine.board.Calm) (parked : engine.Parked) :
    engine.checked.attach.board.present =
      .attachedIn engine.checked.attach.board.world engine.checked.attach.board.master.phase := by
  have flags := (calm.of_scene ((scene_attach _).trans engine.scene_checked)).flags
  exact Board.present_of_attached engine.settings_checked_attach parked.inactive parked.alarm flags

/-- Engines that were set up alike and are looking for their display in the same world. -/
structure SameStart (first second : Engine) : Prop where
  unbooted : first.Unbooted
  unbooted' : second.Unbooted
  parked : first.Parked
  parked' : second.Parked
  config : first.config = second.config
  backlight : first.display.backlight = second.display.backlight
  world : first.board.world = second.board.world

namespace SameStart

variable (start : first.SameStart second)
include start

theorem watchdog : first.watchdog.timeout = second.watchdog.timeout := by
  rw [start.unbooted.timed, start.unbooted'.timed, start.config]

theorem wired : first.board.Wired second.board := by
  have scl : first.board.scl = second.board.scl :=
    (start.parked.lines .scl).trans (start.parked'.lines .scl).symm
  have sda : first.board.sda = second.board.sda :=
    (start.parked.lines .sda).trans (start.parked'.lines .sda).symm
  unfold Board.Wired Board.bare
  rw [scl, sda, start.world]

/-- The check of the lines comes to the same. -/
theorem together_checked : first.pulledUp = second.pulledUp ∧
    first.board.Together second.board first.checked.board second.checked.board := by
  have woken := together_wake start.wired
  obtain ⟨same, checked⟩ := Board.together_linesPulledUp (woken.wired start.wired)
  exact ⟨same, woken.trans checked⟩

theorem together_attached : first.board.Together second.board first.checked.attach.board
    second.checked.attach.board := by
  have attached : first.checked.board.Together second.checked.board first.checked.attach.board
      second.checked.attach.board := ⟨_, exchange_attach _, exchange_attach _⟩
  exact start.together_checked.2.trans attached

theorem retries : first.checked.attach.bus.Retries second.checked.attach.bus where
  board := by
    have world := (start.together_attached.wired start.wired).world
    have present := present_attached start.unbooted.calm start.parked
    have present' := present_attached start.unbooted'.calm start.parked'
    have moved (phase : Phase) : (second.checked.attach.board.withPhase phase).present =
        .attachedIn first.checked.attach.board.world phase := by
      rw [world]
      exact congrArg (Board.withPhase · phase) present'
    exact present.trans (moved _).symm
  calm := start.unbooted.calm.of_scene ((scene_attach _).trans first.scene_checked)
  calm' := start.unbooted'.calm.of_scene ((scene_attach _).trans second.scene_checked)
  alive := rfl
  alive' := rfl
  timeout := by
    rw [patience_attach, patience_checked, patience_attach, patience_checked,
      start.unbooted.patience, start.unbooted'.patience, start.config]

end SameStart

/-! ## The next bring-up -/

/-- Two bring-ups have the same result after calls that match, and a success leaves the same. -/
def BringsUpLike (first second : Engine) : Prop :=
  ∃ result after after', first.bringUp = .ok (result, after) ∧
    second.bringUp = .ok (result, after') ∧
      first.board.Matched second.board after.board after'.board ∧
        after.bus.alive = after'.bus.alive ∧
          ∀ powerOn, result = .ok powerOn → after.board.Alike after'.board

namespace SameStart

variable (start : first.SameStart second)
include start

/-- Bring-ups that name no display are given up in the same way. -/
theorem bringsUpLike_of_stopped {error : BringUpError} {stopped stopped' : Engine}
    (unnamed : first.wake.identify first.mode.controller? = (.error error, stopped))
    (unnamed' : second.wake.identify second.mode.controller? = (.error error, stopped'))
    (calls : first.board.Together second.board stopped.board stopped'.board)
    (watchdog : stopped.watchdog.timeout = stopped'.watchdog.timeout)
    (alive : stopped.bus.alive = stopped'.bus.alive) : first.BringsUpLike second := by
  have given := bringUp_of_stopped unnamed
  have given' := bringUp_of_stopped unnamed'
  rw [isNone_of_unknown start.unbooted.mode] at given
  rw [isNone_of_unknown start.unbooted'.mode] at given'
  refine ⟨_, _, _, given, given', ?_, ?_, nofun⟩
  · exact (calls.trans (together_giveUp stopped stopped' watchdog true error)).matched
  · rw [alive_giveUp, alive_giveUp, alive]

/-- Engines that find the same display are twins from there on. -/
theorem twins_of_found {bus bus' : Bus} (alike : bus.Alike bus') :
    (first.checked.attach.setBus bus).clearText.Twins
      (second.checked.attach.setBus bus').clearText := by
  have frame (engine : Engine) (bus : Bus) :
      engine.clearText.Frame (engine.checked.attach.setBus bus).clearText :=
    (((Frame.checked engine).trans (.attach _)).trans (.setBus _ bus)).clearText
  have mode := start.unbooted.mode.trans start.unbooted'.mode.symm
  exact {
    config := (frame first bus).config.trans (start.config.trans (frame second bus').config.symm)
    watchdog := (frame first bus).timeout.trans
      (start.watchdog.trans (frame second bus').timeout.symm)
    mode := (frame first bus).mode.trans (mode.trans (frame second bus').mode.symm)
    bus := alike }

/-- **The next bring-up comes to what it comes to on an engine that is new.** -/
theorem bringsUpLike : first.BringsUpLike second := by
  obtain ⟨pulled, checked⟩ := start.together_checked
  have unnamed := identify_of_unknown start.unbooted.mode
  have unnamed' := identify_of_unknown start.unbooted'.mode
  rw [← pulled] at unnamed'
  cases up : first.pulledUp with
  | false =>
    rw [up, if_neg Bool.noConfusion] at unnamed unnamed'
    exact start.bringsUpLike_of_stopped unnamed unnamed' checked start.watchdog rfl
  | true =>
    rw [up, if_pos rfl] at unnamed unnamed'
    -- Twins cannot be used before the search: the bus masters may stand at different phases.
    obtain ⟨controller, bus, bus', scan, scan', calls, alike⟩ |
      ⟨error, bus, bus', scan, scan', calls, alive⟩ := start.retries.detect first.config
    · rw [detect_of_ok scan] at unnamed
      rw [start.config] at scan'
      rw [detect_of_ok scan'] at unnamed'
      have twins := start.twins_of_found alike
      obtain ⟨result, after, after', brought, brought', mirrors, _⟩ :=
        twins.bringUp unnamed unnamed' (by rw [start.unbooted.mode, start.unbooted'.mode])
      exact ⟨result, after, after', brought, brought',
        (start.together_attached.trans calls).matched.trans mirrors.calls,
        mirrors.twins.bus.alive, fun _ _ => mirrors.twins.bus.board⟩
    · rw [detect_of_error scan] at unnamed
      rw [start.config] at scan'
      rw [detect_of_error scan'] at unnamed'
      exact start.bringsUpLike_of_stopped unnamed unnamed' (start.together_attached.trans calls)
        start.watchdog alive

end SameStart

end Engine

end StatusDisplay
