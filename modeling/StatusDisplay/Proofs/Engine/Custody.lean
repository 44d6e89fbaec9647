import StatusDisplay.Proofs.Board.Custody
import StatusDisplay.Proofs.Engine.Standing

/-!
# The engine hands the lines over

A bring-up starts from a board at rest, works the lines by hand, and gives them to the bus master
just before it switches that on; giving up takes them back in the opposite order. A bus error takes
the bus master off the bus before it touches a line. So every step that starts parked or live keeps
the lines in one pair of hands at each of its calls, however it ends.
-/

namespace StatusDisplay

theorem Call.keepsMaster_of_isTraffic (call : Call) (traffic : call.isTraffic = true) :
    call.keepsMaster = true := by
  cases call <;> first | rfl | cases traffic

theorem Call.keepsMaster_of_isAddressing (call : Call) (addressing : call.isAddressing = true) :
    call.keepsMaster = true := by
  cases call <;> first | rfl | cases addressing

theorem Call.keepsMaster_of_isService {config : Config} {speed : Speed} (call : Call)
    (service : call.isService config speed = true) : call.keepsMaster = true := by
  cases call <;> first | rfl | cases service

theorem Call.keepsRest_of_isSample (call : Call) (sample : call.isSample = true) :
    call.keepsRest = true := by
  cases call <;> first | rfl | cases sample

namespace Settings

variable {settings : Settings}

/-- Once the bus master has the lines it is on, and nobody else pulls one low. -/
theorem mastered_attached (settings : Settings) : settings.attached.Mastered where
  powered := rfl
  enabled := rfl
  lines line := by cases line <;> rfl

theorem Serving.mastered {config : Config} {speed : Speed} (h : settings.Serving config speed) :
    settings.Mastered where
  powered := h.powered
  enabled := h.enabled
  lines line := by
    cases line with
    | scl => exact h.scl
    | sda => exact h.sda

/-- Lines that nobody pulls low leave a board at rest, in whatever way they are connected. -/
theorem AtRest.withLines (h : settings.AtRest) (mode : LineMode) :
    (settings.withLines mode).AtRest where
  enabled := h.enabled
  inactive := h.inactive
  released line := by cases line <;> rfl

theorem AtRest.setPowered (h : settings.AtRest) (on : Bool) :
    { settings with powered := on }.AtRest :=
  ⟨h.enabled, h.inactive, h.released⟩

end Settings

namespace Engine

variable {engine after : Engine}

theorem Parked.atRest (h : engine.Parked) : engine.board.settings.AtRest where
  enabled := h.disabled
  inactive := h.inactive
  released line := by
    cases line with
    | scl => exact congrArg LineState.drivenLow (h.lines .scl)
    | sda => exact congrArg LineState.drivenLow (h.lines .sda)

theorem Live.mastered (h : engine.Live) : engine.board.settings.Mastered := by
  obtain ⟨_, _, serving, _⟩ := live_iff.1 h
  exact serving.mastered

/-! ## Bring-up -/

theorem atRest_wake (rest : engine.board.settings.AtRest) : engine.wake.board.settings.AtRest := by
  rw [settings_wake]
  exact (rest.setPowered true).withLines .openDrain

theorem atRest_checked (rest : engine.board.settings.AtRest) :
    engine.checked.board.settings.AtRest := by
  rw [settings_checked]
  exact (rest.setPowered true).withLines .pullDownInput

/-- The lines are let go of before they are worked by hand. -/
theorem keeps_wake (rest : engine.board.settings.AtRest) : engine.board.Keeps engine.wake.board := by
  let powered := engine.board.setPowered true
  have lettingGo : Exchange engine.board
      [.setPowered true, .setLineMode .scl .openDrain, .setLineMode .sda .openDrain, .release .scl,
        .release .sda, .delayMicros Board.settleMicros] powered.letGo :=
    .cons rfl powered.exchange_letGo
  have byHand : powered.letGo.settings.ByHand := by
    rw [lettingGo.settings_eq]
    refine ⟨rest.enabled, rest.inactive, ?_⟩
    intro line
    cases line <;> rfl
  have worked : powered.letGo.Keeps engine.wake.board :=
    .of_regime Settings.regime_byHand byHand powered.makes_releaseLines_of_letGo
  exact (Board.Keeps.of_rest rest (.of_exchange lettingGo rfl)).trans worked

theorem keeps_checked (rest : engine.board.settings.AtRest) :
    engine.board.Keeps engine.checked.board := by
  have settled := engine.wake.board.exchange_settledInput
  have sampled := Board.samples_sampleData (engine.wake.board.setLineModes .pullDownInput).settle
  have makes : engine.wake.board.Makes Call.keepsRest engine.wake.board.linesPulledUp.2 := by
    rw [Board.linesPulledUp_board]
    exact .trans (.of_exchange settled rfl) (sampled.mono Call.keepsRest_of_isSample)
  exact (keeps_wake rest).trans (.of_rest (atRest_wake rest) makes)

theorem keeps_attach (rest : engine.board.settings.AtRest)
    (powered : engine.board.settings.powered = true) : engine.board.Keeps engine.attach.board :=
  ⟨_, engine.exchange_attach, Settings.keeps_attach rest powered .standard⟩

theorem keeps_checked_attach (rest : engine.board.settings.AtRest) :
    engine.board.Keeps engine.checked.attach.board := by
  have powered : engine.checked.board.settings.powered = true := by
    rw [settings_checked]
    rfl
  exact (keeps_checked rest).trans (keeps_attach (atRest_checked rest) powered)

/-- Whichever way a controller is named, the bus master gets the lines from a board at rest. -/
theorem Identified.keeps {controller : Controller} (h : engine.Identified controller after)
    (rest : engine.board.settings.AtRest) : engine.board.Keeps after.board := by
  cases h with
  | known =>
    have powered : engine.wake.board.settings.powered = true := by
      rw [settings_wake]
      rfl
    exact (keeps_wake rest).trans (keeps_attach (atRest_wake rest) powered)
  | found _ _ scan =>
    have traffic := (Bus.isTraffic_detect engine.config).of_ok scan
    have mastered : engine.checked.attach.board.settings.Mastered := by
      rw [settings_checked_attach]
      exact Settings.mastered_attached _
    have scanned := traffic.makes.mono Call.keepsMaster_of_isTraffic
    exact (keeps_checked_attach rest).trans (.of_mastered mastered scanned)

/-- Shutting down switches the bus master off before it lets go of the lines. -/
theorem keeps_shutDown (mastered : engine.board.settings.Mastered) :
    engine.board.Keeps engine.shutDown.board := by
  have masks : [Call.disableIrq .busEvent, .disableIrq .busError, .disableIrq .transferDone,
      .cancelAlarm, .stopTransfer].all Call.keepsMaster = true := rfl
  have parks : [Call.setLineMode .scl .pullUpInput, .setLineMode .sda .pullUpInput,
      .setPowered false].all Call.keepsRest = true := rfl
  obtain ⟨masking, masked⟩ := Settings.regime_mastered.keeps mastered masks
  obtain ⟨parking, _⟩ := Settings.regime_atRest.keeps (masked.atRest_disable rfl) parks
  have disabling : engine.board.settings.Keeps
      ([.disableIrq .busEvent, .disableIrq .busError, .disableIrq .transferDone, .cancelAlarm,
        .stopTransfer] ++ ([.disable] ++ [.setLineMode .scl .pullUpInput,
          .setLineMode .sda .pullUpInput, .setPowered false])) :=
    Settings.keeps_append.2 ⟨masking, masked.orderly, nofun, parking⟩
  exact ⟨_, engine.exchange_shutDown, disabling⟩

/-- A bring-up that has adopted its controller is given up with the lines in one pair of hands. -/
theorem keeps_giveUp (mastered : engine.board.settings.Mastered) (firstBoot : Bool)
    (error : BringUpError) : engine.board.Keeps (engine.giveUp firstBoot error).board := by
  cases firstBoot with
  | true =>
    have recorded : (engine.recordFailure error.kind).board.settings.Mastered := mastered
    exact keeps_shutDown recorded
  | false =>
    have rearmed := (engine.recordFailure error.kind).exchange_rearm
    exact .of_mastered mastered (.of_exchange rearmed rfl)

/-- The lines are the bus master's while a controller is adopted and what follows is traffic. -/
theorem Identified.keeps_tried {controller : Controller} {identified : Engine}
    (h : engine.Identified controller identified) (rest : engine.board.settings.AtRest)
    {bus : Bus} (traffic : Bus.Traffic (identified.adopt controller).bus bus) :
    engine.board.Keeps bus.board ∧ bus.board.settings.Mastered := by
  have mastered : identified.board.settings.Mastered := by
    rw [h.settings_eq]
    exact Settings.mastered_attached _
  have adopted : identified.board.Makes Call.keepsMaster (identified.adopt controller).board :=
    .of_exchange (identified.exchange_adopt controller) rfl
  have tried := adopted.trans (traffic.makes.mono Call.keepsMaster_of_isTraffic)
  refine ⟨(h.keeps rest).trans (.of_mastered mastered tried), ?_⟩
  obtain ⟨calls, exchange, all⟩ := tried
  rw [exchange.settings_eq]
  exact (Settings.regime_mastered.keeps mastered all).2

/-- **A bring-up from rest keeps the lines in one pair of hands, however it ends.** -/
theorem BroughtUp.keeps {result : Except BringUpError PowerOn} (h : engine.BroughtUp result after)
    (rest : engine.board.settings.AtRest) : engine.board.Keeps after.board := by
  cases h with
  | floating =>
    have shutDown := (engine.checked.recordFailure BringUpError.invalidBus.kind).exchange_shutDown
    exact (keeps_checked rest).trans (.of_rest (atRest_checked rest) (.of_exchange shutDown rfl))
  | @undetected error bus _ _ scan =>
    have traffic := (Bus.isTraffic_detect engine.config).of_error scan
    have mastered : engine.checked.attach.board.settings.Mastered := by
      rw [settings_checked_attach]
      exact Settings.mastered_attached _
    have scanned : engine.checked.attach.board.Keeps bus.board :=
      .of_mastered mastered (traffic.makes.mono Call.keepsMaster_of_isTraffic)
    have after : (engine.checked.attach.setBus bus).board.settings.Mastered := by
      have same : bus.board.settings = engine.checked.attach.board.settings := traffic.settings_eq
      rw [← same] at mastered
      exact mastered
    exact ((keeps_checked_attach rest).trans scanned).trans (keeps_giveUp after true error)
  | @unanswered address identified error bus named unanswered =>
    have traffic := (Bus.isTraffic_handshake address).of_error unanswered
    obtain ⟨tried, mastered⟩ := named.keeps_tried rest traffic
    let stopped := (identified.adopt (.character address)).setBus bus
    have after : stopped.board.settings.Mastered := mastered
    exact tried.trans (keeps_giveUp after _ _)
  | @character address identified bus named answered =>
    have traffic := (Bus.isTraffic_handshake address).of_ok answered
    obtain ⟨tried, mastered⟩ := named.keeps_tried rest traffic
    let answering := (identified.adopt (.character address)).setBus bus
    have launched := answering.exchange_launch
      (Lcd.setupPayload (identified.adopt (.character address)).display.backlight)
    exact tried.trans (.of_mastered mastered (.of_exchange launched rfl))
  | @bitmap address identified named =>
    obtain ⟨tried, mastered⟩ := named.keeps_tried rest (.refl _)
    have launched := (identified.adopt (.bitmap address)).exchange_launchPanel
    exact tried.trans (.of_mastered mastered (.of_exchange launched rfl))

/-! ## Interrupts -/

/-- A bus error takes the bus master off the bus before it works the lines. -/
theorem Recovered.keeps (h : engine.Recovered after) (standing : engine.Parked ∨ engine.Live) :
    engine.board.Keeps after.board := by
  cases h with
  | unknown mode =>
    have rest := (parked_of_unknown standing mode).atRest
    exact .of_rest rest (.of_exchange engine.exchange_noted rfl)
  | @broughtUp controller _ _ known result =>
    have live : engine.Live := by
      refine standing.resolve_left fun parked => ?_
      rw [parked.mode] at known
      cases known
    have clears : [Call.clearErrors engine.board.master.flags.errors].all Call.keepsMaster =
        true := rfl
    have cancels : [Call.cancelAlarm].all Call.keepsRest = true := rfl
    obtain ⟨cleared, mastered⟩ := Settings.regime_mastered.keeps live.mastered clears
    obtain ⟨resetting, rest⟩ := mastered.keeps_reset
    obtain ⟨cancelled, stopped⟩ := Settings.regime_atRest.keeps rest cancels
    have aborting : engine.board.settings.Keeps
        ([.clearErrors engine.board.master.flags.errors] ++ ([.reset, .stopTransfer] ++
          [.cancelAlarm])) :=
      Settings.keeps_append.2 ⟨cleared, Settings.keeps_append.2 ⟨resetting, cancelled⟩⟩
    have aborted : engine.aborted.board.settings.AtRest := by
      rw [engine.exchange_aborted.settings_eq]
      exact stopped
    exact .trans ⟨_, engine.exchange_aborted, aborting⟩ (result.keeps aborted)

/-- The end of a transfer leaves the lines with whoever has them. -/
theorem TransferDone.keeps (h : engine.TransferDone after) (standing : engine.Parked ∨ engine.Live)
    (timed : engine.watchdog.timeout = engine.config.watchdogTimeout) :
    engine.board.Keeps after.board := by
  obtain parked | live := standing
  · rw [h.of_unknown parked.mode]
    exact .of_rest parked.atRest (.of_exchange engine.exchange_acknowledged rfl)
  · obtain ⟨controller, known, serving, _⟩ := live_iff.1 live
    have served := h.makes_service known timed
    exact .of_mastered serving.mastered (served.mono Call.keepsMaster_of_isService)

theorem keeps_onBusEvent (standing : engine.Parked ∨ engine.Live) :
    engine.board.Keeps engine.onBusEvent.board := by
  obtain parked | live := standing
  · rw [onBusEvent_of_unknown parked.mode]
    exact .of_rest parked.atRest (.refl _)
  · exact .of_mastered live.mastered
      (engine.makes_onBusEvent.mono Call.keepsMaster_of_isAddressing)

end Engine

end StatusDisplay
