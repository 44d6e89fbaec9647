import StatusDisplay.Proofs.Engine.Calls
import StatusDisplay.Proofs.Engine.Frame

/-!
# Parked or live

Between two steps the engine is parked, with everything switched off, or live, with a display that
is refreshed and a watchdog that will notice if it stops. A bring-up ends in one of the two
whatever goes wrong in it; from there on only `Call.isService` calls are made, and these keep a
live engine live (`Settings.Serving.of_makes`).
-/

namespace StatusDisplay

/-- The clock speed at which a controller is refreshed. -/
def Controller.speed : Controller → Speed
  | .character _ => .standard
  | .bitmap _ => .fast

namespace Engine

/-- Everything is switched off and the lines are left to themselves. -/
structure Parked (engine : Engine) : Prop where
  mode : engine.mode = .unknown
  irqs : ∀ irq, (engine.board.irqs.get irq).enabled = false
  alarm : engine.board.alarm = none
  disarmed : engine.watchdog.armed = false
  inactive : engine.board.transferActive = false
  disabled : engine.board.master.enabled = false
  unpowered : engine.board.master.powered = false
  lines : ∀ line, engine.board.line line = ⟨.pullUpInput, false⟩

/-- A display is refreshed, and the watchdog will notice if the refresh stops. -/
structure Live (engine : Engine) : Prop where
  controller : ∃ controller, engine.mode.controller? = some controller ∧
    engine.board.speed? = some controller.speed
  powered : engine.board.master.powered = true
  enabled : engine.board.master.enabled = true
  errorIrq : engine.board.master.errorIrq = true
  eventIrq : ∀ address, engine.mode = .character address → engine.board.master.eventIrq = false
  irqs : ∀ irq, (engine.board.irqs.get irq).enabled = true ∧
    (engine.board.irqs.get irq).priority = some engine.config.irqPriority
  alarm : engine.board.alarm = some engine.config.watchdogTimeout
  armed : engine.watchdog.armed = true
  lines : ∀ line, engine.board.line line = ⟨.busMaster, false⟩

theorem Live.not_parked {engine : Engine} (h : engine.Live) : ¬ engine.Parked := by
  intro parked
  have on := h.powered
  rw [parked.unpowered] at on
  cases on

end Engine

namespace Settings

/-- The settings once the bus master has the lines. -/
def attached (settings : Settings) : Settings :=
  { settings with
    powered := true
    enabled := true
    eventIrq := false
    errorIrq := false
    transferRequests := false
    speed := some .standard }.withLines .busMaster

/-- What the board's settings have to be while a controller is refreshed at `speed`. -/
structure Serving (settings : Settings) (config : Config) (speed : Speed) : Prop where
  powered : settings.powered = true
  enabled : settings.enabled = true
  errorIrq : settings.errorIrq = true
  eventIrq : speed = .standard → settings.eventIrq = false
  speed : settings.speed = some speed
  irqs : ∀ irq, (settings.irqs.get irq).enabled = true ∧
    (settings.irqs.get irq).priority = some config.irqPriority
  alarm : settings.alarm = some config.watchdogTimeout
  scl : settings.scl = ⟨.busMaster, false⟩
  sda : settings.sda = ⟨.busMaster, false⟩

end Settings

/--
Calls that leave a display in service. Only a panel at full speed opens by interrupt, and transfer
requests are never switched off.
-/
def Call.isService (config : Config) (speed : Speed) : Call → Bool
  | .setEventIrq on => !on || speed == .fast
  | .setTransferRequests on => on
  | .startTransfer _ | .stopTransfer => true
  | .armAlarm micros => micros == config.watchdogTimeout
  | call => call.isTraffic

namespace Settings.Serving

variable {settings : Settings} {config : Config} {speed : Speed} {before after : Board}

theorem after_service {call : Call} (h : settings.Serving config speed)
    (service : call.isService config speed = true) : (settings.after call).Serving config speed := by
  cases call with
  | setEventIrq on =>
    refine { h with eventIrq := ?_ }
    intro standard
    rw [Call.isService, standard] at service
    cases on with
    | true => cases service
    | false => rfl
  | armAlarm micros => exact { h with alarm := congrArg some (beq_iff_eq.1 service) }
  | startTransfer => exact { h with }
  | stopTransfer => exact { h with }
  | setTransferRequests => exact { h with }
  | _ => first | exact h | cases service

/-- Calls that leave a display in service do so one after the other. -/
theorem of_makes (h : before.settings.Serving config speed)
    (makes : before.Makes (Call.isService config speed) after) :
    after.settings.Serving config speed := by
  apply makes.preserves (P := fun board => board.settings.Serving config speed) h
  intro board call _ service serving
  rw [board.settings_perform]
  exact serving.after_service service

end Settings.Serving

/-- Service calls leave the transfer requests on. -/
theorem Board.Makes.transferRequests {config : Config} {speed : Speed} {before after : Board}
    (makes : before.Makes (Call.isService config speed) after)
    (on : before.master.transferRequests = true) : after.master.transferRequests = true := by
  apply makes.preserves (P := fun board => board.master.transferRequests = true) on
  intro board call _ service on
  have after : (board.perform call).master.transferRequests =
      (board.settings.after call).transferRequests :=
    congrArg Settings.transferRequests (board.settings_perform call)
  rw [after]
  cases call with
  | setTransferRequests => exact service
  | _ => first | exact on | cases service

theorem Call.isService_of_isTraffic (config : Config) (speed : Speed) (call : Call)
    (traffic : call.isTraffic = true) : call.isService config speed = true := by
  cases call <;> first | exact traffic | cases traffic

theorem Call.isService_of_isAddressing (config : Config) (speed : Speed) (call : Call)
    (addressing : call.isAddressing = true) : call.isService config speed = true := by
  cases call with
  | setEventIrq on =>
    cases on with
    | true => cases addressing
    | false => rfl
  | _ => first | rfl | cases addressing

namespace Engine

variable {engine after : Engine}

theorem live_iff : engine.Live ↔ ∃ controller, engine.mode.controller? = some controller ∧
    engine.board.settings.Serving engine.config controller.speed ∧
      engine.watchdog.armed = true := by
  constructor
  · intro h
    obtain ⟨controller, known, speed⟩ := h.controller
    refine ⟨controller, known, ?_, h.armed⟩
    refine ⟨h.powered, h.enabled, h.errorIrq, ?_, speed, h.irqs, h.alarm, h.lines .scl,
      h.lines .sda⟩
    intro standard
    cases mode : engine.mode with
    | unknown => rw [mode] at known; cases known
    | character address => exact h.eventIrq address mode
    | bitmap address cursor =>
      rw [mode] at known
      cases known
      cases standard
  · rintro ⟨controller, known, serving, armed⟩
    refine ⟨⟨controller, known, serving.speed⟩, serving.powered, serving.enabled,
      serving.errorIrq, ?_, serving.irqs, serving.alarm, armed, ?_⟩
    · intro address mode
      rw [mode] at known
      cases known
      exact serving.eventIrq rfl
    · intro line
      cases line with
      | scl => exact serving.scl
      | sda => exact serving.sda

/-- Without a display the engine can only be parked. -/
theorem parked_of_unknown (standing : engine.Parked ∨ engine.Live)
    (mode : engine.mode = .unknown) : engine.Parked := by
  rcases standing with parked | live
  · exact parked
  · obtain ⟨controller, known, _⟩ := live.controller
    rw [mode] at known
    cases known

/-! ## Bring-up -/

theorem settings_wake (engine : Engine) : engine.wake.board.settings =
    { engine.board.settings with powered := true }.withLines .openDrain :=
  (engine.board.setPowered true).settings_releaseLines

theorem settings_checked (engine : Engine) : engine.checked.board.settings =
    { engine.board.settings with powered := true }.withLines .pullDownInput := by
  have checked : engine.checked.board.settings = engine.wake.board.linesPulledUp.2.settings := rfl
  rw [checked, Board.settings_linesPulledUp, settings_wake]
  rfl

theorem settings_checked_attach (engine : Engine) :
    engine.checked.attach.board.settings = engine.board.settings.attached := by
  rw [(exchange_attach engine.checked).settings_eq, settings_checked]
  rfl

/-- Whichever way the controller was named, the bus master has the lines. -/
theorem Identified.settings_eq {controller : Controller}
    (h : engine.Identified controller after) :
    after.board.settings = engine.board.settings.attached := by
  cases h with
  | known =>
    rw [(exchange_attach engine.wake).settings_eq, settings_wake]
    rfl
  | found _ _ scan =>
    have traffic := (Bus.isTraffic_detect engine.config).of_ok scan
    exact traffic.settings_eq.trans engine.settings_checked_attach

theorem serving_adopt {settings : Settings} (controller : Controller)
    (attached : engine.board.settings = settings.attached)
    (timed : engine.watchdog.timeout = engine.config.watchdogTimeout) :
    (engine.adopt controller).board.settings.Serving engine.config .standard := by
  rw [(exchange_adopt engine controller).settings_eq, attached, timed]
  refine ⟨rfl, rfl, rfl, fun _ => rfl, rfl, ?_, rfl, rfl, rfl⟩
  intro irq
  cases irq <;> exact ⟨rfl, rfl⟩

theorem serving_openPanel {config : Config}
    (h : engine.board.settings.Serving config .standard) :
    engine.openPanel.board.settings.Serving config .fast := by
  rw [(exchange_openPanel engine).settings_eq]
  exact { h with
    enabled := rfl
    errorIrq := rfl
    eventIrq := fun standard => nomatch standard
    speed := rfl }

theorem parked_shutDown (free : ∀ line, (engine.board.line line).drivenLow = false) :
    engine.shutDown.Parked := by
  refine ⟨rfl, ?_, rfl, rfl, rfl, rfl, rfl, ?_⟩
  · intro irq
    cases irq <;> rfl
  · intro line
    cases line with
    | scl => exact congrArg (LineState.mk .pullUpInput) (free .scl)
    | sda => exact congrArg (LineState.mk .pullUpInput) (free .sda)

/-- Shutting down parks the engine once nobody drives the lines. -/
theorem parked_shutDown_of_settings {settings : Settings} {mode : LineMode}
    (lines : engine.board.settings = settings.withLines mode) : engine.shutDown.Parked := by
  apply parked_shutDown
  intro line
  cases line with
  | scl => exact congrArg (fun settings => settings.scl.drivenLow) lines
  | sda => exact congrArg (fun settings => settings.sda.drivenLow) lines

/-- A handshake with a character display that has just been adopted leaves it in service. -/
theorem serving_handshake {address : UInt8} {identified : Engine} {bus : Bus}
    (named : engine.Identified (.character address) identified)
    (timed : engine.watchdog.timeout = engine.config.watchdogTimeout)
    (traffic : Bus.Traffic (identified.adopt (.character address)).bus bus) :
    bus.board.settings.Serving engine.config .standard := by
  have same := named.sameSetup
  have adopted := serving_adopt (.character address) named.settings_eq
    (by rw [same.timeout, same.config, timed])
  have kept : bus.board.settings = (identified.adopt (.character address)).board.settings :=
    traffic.settings_eq
  rw [kept, ← same.config]
  exact adopted

theorem serving_rearm {config : Config} {speed : Speed}
    (h : engine.board.settings.Serving config speed)
    (timed : engine.watchdog.timeout = config.watchdogTimeout) :
    engine.rearm.board.settings.Serving config speed := by
  have service : (Call.armAlarm engine.watchdog.timeout).isService config speed = true :=
    beq_iff_eq.2 timed
  rw [engine.exchange_rearm.settings_eq]
  exact h.after_service service

theorem serving_startTransfer {config : Config} {speed : Speed}
    (h : engine.board.settings.Serving config speed)
    (timed : engine.watchdog.timeout = config.watchdogTimeout) :
    engine.startTransfer.board.settings.Serving config speed := by
  have service : (Call.armAlarm engine.watchdog.timeout).isService config speed = true :=
    beq_iff_eq.2 timed
  have start : (Call.startTransfer engine.payload.bytes).isService config speed = true := rfl
  rw [engine.exchange_startTransfer.settings_eq]
  exact (h.after_service start).after_service service

theorem serving_launch {config : Config} {speed : Speed} (payload : Payload)
    (h : engine.board.settings.Serving config speed)
    (timed : engine.watchdog.timeout = config.watchdogTimeout) :
    (engine.launch payload).board.settings.Serving config speed := by
  have request : (Call.setTransferRequests true).isService config speed = true := rfl
  have start : (Call.startTransfer payload.bytes).isService config speed = true := rfl
  have service : (Call.armAlarm engine.watchdog.timeout).isService config speed = true :=
    beq_iff_eq.2 timed
  rw [(engine.exchange_launch payload).settings_eq]
  exact ((h.after_service request).after_service start).after_service service

theorem serving_launchPanel {config : Config}
    (h : engine.board.settings.Serving config .standard)
    (timed : engine.watchdog.timeout = config.watchdogTimeout) :
    engine.launchPanel.board.settings.Serving config .fast := by
  have request : (Call.setTransferRequests true).isService config .fast = true := rfl
  have requested : (engine.openPanel.modifyBoard (·.setTransferRequests true)).board.settings.Serving
      config .fast := (serving_openPanel h).after_service request
  exact serving_startTransfer requested (engine.sameSetup_openPanel.timeout.trans timed)

/-- **However a bring-up ends, the engine is parked or live.** -/
theorem BroughtUp.standing {result : Except BringUpError PowerOn}
    (h : engine.BroughtUp result after)
    (timed : engine.watchdog.timeout = engine.config.watchdogTimeout) :
    after.Parked ∨ after.Live := by
  have same := h.sameSetup
  cases h with
  | floating => exact .inl (parked_shutDown_of_settings engine.settings_checked)
  | @undetected _ bus _ _ scan =>
    have traffic := (Bus.isTraffic_detect engine.config).of_error scan
    have attached : bus.board.settings = engine.board.settings.attached :=
      traffic.settings_eq.trans engine.settings_checked_attach
    exact .inl (parked_shutDown_of_settings attached)
  | @unanswered address identified error bus named answer =>
    have traffic := (Bus.isTraffic_handshake address).of_error answer
    have serving := serving_handshake named timed traffic
    have timeout := named.sameSetup.timeout.trans timed
    cases first : engine.mode.controller?.isNone with
    | true =>
      refine .inl (parked_shutDown fun line => ?_)
      cases line with
      | scl => exact congrArg LineState.drivenLow serving.scl
      | sda => exact congrArg LineState.drivenLow serving.sda
    | false =>
      rw [first] at same
      refine .inr (live_iff.2 ⟨.character address, rfl, ?_, rfl⟩)
      rw [same.config]
      exact serving_rearm serving timeout
  | @character address identified bus named answer =>
    have traffic := (Bus.isTraffic_handshake address).of_ok answer
    have serving := serving_handshake named timed traffic
    have timeout := named.sameSetup.timeout.trans timed
    refine .inr (live_iff.2 ⟨.character address, rfl, ?_, rfl⟩)
    rw [same.config]
    exact serving_launch _ serving timeout
  | @bitmap address identified named =>
    have config := named.sameSetup.config
    have timeout := named.sameSetup.timeout.trans timed
    rw [← config] at timeout
    have adopted := serving_adopt (.bitmap address) named.settings_eq timeout
    have kept := (sameSetup_adopt identified (.bitmap address)).timeout.trans timeout
    refine .inr (live_iff.2 ⟨.bitmap address, rfl, ?_, rfl⟩)
    rw [same.config, ← config]
    exact serving_launchPanel adopted kept

/-! ## Interrupts -/

theorem Parked.acknowledged (h : engine.Parked) :
    { engine.acknowledged with activity := .idle }.Parked :=
  { h with inactive := rfl }

theorem TransferDone.controller? (h : engine.TransferDone after) :
    after.mode.controller? = engine.mode.controller? := by
  cases h with
  | row => exact Mode.controller?_withCursor engine.mode _
  | reopened => exact Mode.controller?_withCursor engine.mode _
  | unknown => rfl
  | frame => rfl
  | notClosed => rfl

/-- What the end of a transfer leads to for a display of the given speed. -/
theorem TransferDone.makes_service {controller : Controller} (h : engine.TransferDone after)
    (known : engine.mode.controller? = some controller)
    (timed : engine.watchdog.timeout = engine.config.watchdogTimeout) :
    engine.board.Makes (Call.isService engine.config controller.speed) after.board := by
  have service (speed : Speed) :
      (Call.armAlarm engine.watchdog.timeout).isService engine.config speed = true :=
    beq_iff_eq.2 timed
  have closing (bus : Bus) (traffic : Bus.Traffic engine.acknowledged.bus bus) :
      engine.board.Makes (Call.isService engine.config controller.speed) bus.board :=
    .trans (.of_exchange engine.exchange_acknowledged rfl)
      (traffic.makes.mono (Call.isService_of_isTraffic _ _))
  cases h with
  | unknown mode => rw [mode] at known; cases known
  | frame =>
    refine .of_exchange engine.exchange_nextFrame ?_
    simp only [List.all_cons, List.all_nil, service]
    rfl
  | row =>
    refine .of_exchange (engine.exchange_nextRow _ _) ?_
    simp only [List.all_cons, List.all_nil, service]
    rfl
  | reopened mode closed =>
    have traffic := Bus.isTraffic_close.of_ok closed
    rw [mode] at known
    cases known
    refine (closing _ traffic).trans (.of_exchange (engine.acknowledged.countFrame.exchange_reopen _) ?_)
    have kept : engine.acknowledged.countFrame.watchdog.timeout = engine.watchdog.timeout := rfl
    simp only [List.all_cons, List.all_nil, kept, service]
    rfl
  | notClosed mode failed =>
    have traffic := Bus.isTraffic_close.of_error failed
    exact closing _ traffic

theorem TransferDone.standing (h : engine.TransferDone after)
    (standing : engine.Parked ∨ engine.Live)
    (timed : engine.watchdog.timeout = engine.config.watchdogTimeout) :
    after.Parked ∨ after.Live := by
  obtain parked | live := standing
  · rw [h.of_unknown parked.mode]
    exact .inl parked.acknowledged
  · obtain ⟨controller, known, serving, armed⟩ := live_iff.1 live
    refine .inr (live_iff.2 ⟨controller, h.controller?.trans known, ?_, ?_⟩)
    · rw [h.sameSetup.config]
      exact serving.of_makes (h.makes_service known timed)
    · cases h with
      | frame => rfl
      | row => rfl
      | reopened => rfl
      | unknown => exact armed
      | notClosed => exact armed

theorem standing_onBusEvent (standing : engine.Parked ∨ engine.Live) :
    engine.onBusEvent.Parked ∨ engine.onBusEvent.Live := by
  obtain parked | live := standing
  · rw [onBusEvent_of_unknown parked.mode]
    exact .inl parked
  · obtain ⟨controller, known, serving, armed⟩ := live_iff.1 live
    have frame := Frame.onBusEvent engine
    have watchdog : engine.onBusEvent.watchdog = engine.watchdog := by
      unfold onBusEvent
      split <;> rfl
    refine .inr (live_iff.2 ⟨controller, ?_, ?_, ?_⟩)
    · rw [frame.mode, known]
    · rw [frame.config]
      exact serving.of_makes (engine.makes_onBusEvent.mono (Call.isService_of_isAddressing _ _))
    · rw [watchdog, armed]

theorem Parked.noted (h : engine.Parked) : engine.noted.Parked := { h with }

theorem Recovered.standing (h : engine.Recovered after) (standing : engine.Parked ∨ engine.Live)
    (timed : engine.watchdog.timeout = engine.config.watchdogTimeout) :
    after.Parked ∨ after.Live := by
  have same := engine.sameSetup_aborted
  cases h with
  | unknown mode => exact .inl (parked_of_unknown standing mode).noted
  | broughtUp _ result => exact result.standing (by rw [same.timeout, same.config, timed])

end Engine

end StatusDisplay
