import StatusDisplay.Proofs.Engine.Calls
import StatusDisplay.Proofs.Engine.Frame

/-!
# What a step does with the transfer channel

A bring-up and the end of a transfer each end in one of two ways: the channel was stopped and
nothing was started (`Stopped`), or it was stopped, then the payload was filled, and as the last
thing the payload was handed over (`Sent`). In between no transfer is started.
-/

namespace StatusDisplay

/-- Calls that start no transfer. -/
def Call.sendsNothing (call : Call) : Bool := call.transfer?.isNone

theorem Call.sendsNothing_of_isTraffic (call : Call) (traffic : call.isTraffic = true) :
    call.sendsNothing = true := by
  cases call <;> first | rfl | cases traffic

theorem Call.sendsNothing_of_isWiring (call : Call) (wiring : call.isWiring = true) :
    call.sendsNothing = true := by
  cases call <;> first | rfl | cases wiring

theorem filterMap_transfer?_of_sendsNothing {calls : List Call}
    (h : calls.all Call.sendsNothing = true) : calls.filterMap Call.transfer? = [] := by
  rw [List.filterMap_eq_nil_iff]
  intro call mem
  exact Option.isNone_iff_eq_none.1 (List.all_eq_true.1 h call mem)

namespace Engine

/-- From the first engine to the second no transfer was started, and none was spoilt. -/
structure Silent (before after : Engine) : Prop where
  makes : before.board.Makes Call.sendsNothing after.board
  overwritten : after.overwritten = before.overwritten

/-- The channel is stopped. -/
structure Stopped (before after : Engine) : Prop extends Silent before after where
  inactive : after.board.transferActive = false
  activity : after.activity ≠ .inFlight

/-- Once the channel was stopped, a payload was filled and handed to it. -/
structure Sent (before after : Engine) : Prop where
  start : ∃ ready : Board, ∃ micros, before.board.Makes Call.sendsNothing ready ∧
    ready.transferActive = false ∧
      Exchange ready [.startTransfer after.payload.bytes, .armAlarm micros] after.board
  activity : after.activity = .inFlight
  overwritten : after.overwritten = before.overwritten

variable {engine first second third after : Engine}

theorem Silent.trans (h : first.Silent second) (h' : second.Silent third) : first.Silent third :=
  ⟨h.makes.trans h'.makes, h'.overwritten.trans h.overwritten⟩

theorem Stopped.after_silent (h : second.Stopped third) (before : first.Silent second) :
    first.Stopped third :=
  ⟨before.trans h.toSilent, h.inactive, h.activity⟩

theorem Sent.after_silent (h : second.Sent third) (before : first.Silent second) :
    first.Sent third := by
  obtain ⟨ready, micros, makes, inactive, exchange⟩ := h.start
  exact ⟨⟨ready, micros, before.makes.trans makes, inactive, exchange⟩, h.activity,
    h.overwritten.trans before.overwritten⟩

theorem Silent.of_frame {calls : List Call} (frame : first.Frame second)
    (exchange : Exchange first.board calls second.board)
    (all : calls.all Call.sendsNothing = true) : first.Silent second :=
  ⟨.of_exchange exchange all, frame.overwritten⟩

/-- A payload that was sent was the only one. -/
theorem Sent.transfers (h : engine.Sent after) : ∃ calls,
    Exchange engine.board calls after.board ∧
      calls.filterMap Call.transfer? = [after.payload.bytes] := by
  obtain ⟨ready, micros, ⟨calls, exchange, silent⟩, _, started⟩ := h.start
  refine ⟨_, exchange.append started, ?_⟩
  rw [List.filterMap_append, filterMap_transfer?_of_sendsNothing silent]
  rfl

theorem silent_setBus {bus : Bus} (traffic : Bus.Traffic engine.bus bus) :
    engine.Silent (engine.setBus bus) :=
  ⟨traffic.makes.mono Call.sendsNothing_of_isTraffic, rfl⟩

theorem transferActive_setBus {bus : Bus} (traffic : Bus.Traffic engine.bus bus) :
    bus.board.transferActive = engine.board.transferActive :=
  congrArg Settings.transferActive traffic.settings_eq

/-! ## Bring-up -/

theorem silent_wake (engine : Engine) : engine.Silent engine.wake :=
  ⟨engine.makes_wake_of_wiring rfl Call.sendsNothing_of_isWiring, (Frame.wake engine).overwritten⟩

theorem silent_checked (engine : Engine) : engine.Silent engine.checked :=
  engine.silent_wake.trans
    ⟨engine.makes_checked.mono Call.sendsNothing_of_isWiring, rfl⟩

theorem silent_attach (engine : Engine) : engine.Silent engine.attach :=
  .of_frame (.attach engine) engine.exchange_attach rfl

theorem Identified.silent {controller : Controller} (h : engine.Identified controller after) :
    engine.Silent after := by
  cases h with
  | known => exact engine.silent_wake.trans (silent_attach _)
  | @found bus _ _ scan =>
    have traffic := (Bus.isTraffic_detect engine.config).of_ok scan
    have bus := (engine.silent_checked.trans (silent_attach _)).trans (silent_setBus traffic)
    exact ⟨bus.makes, bus.overwritten⟩

/-- Taking a controller into use stops the channel. -/
theorem silent_adopt (engine : Engine) (controller : Controller) :
    engine.Silent (engine.adopt controller) :=
  ⟨.of_exchange (engine.exchange_adopt controller) rfl, (engine.frame_adopt controller).overwritten⟩

theorem transferActive_adopt (engine : Engine) (controller : Controller) :
    (engine.adopt controller).board.transferActive = false := by
  have settings := (engine.exchange_adopt controller).settings_eq
  exact congrArg Settings.transferActive settings

theorem activity_giveUp (engine : Engine) (firstBoot : Bool) (error : BringUpError) :
    (engine.giveUp firstBoot error).activity ≠ .inFlight := by
  rw [(engine.frame_giveUp firstBoot error).activity]
  exact Activity.noConfusion

/-- A bring-up that is given up on a stopped channel leaves it stopped. -/
theorem stopped_giveUp (firstBoot : Bool) (error : BringUpError)
    (inactive : firstBoot = false → engine.board.transferActive = false) :
    engine.Stopped (engine.giveUp firstBoot error) := by
  have frame := engine.frame_giveUp firstBoot error
  cases firstBoot with
  | true =>
    have exchange := (engine.recordFailure error.kind).exchange_shutDown
    exact ⟨⟨.of_exchange exchange rfl, frame.overwritten⟩,
      congrArg Settings.transferActive exchange.settings_eq, engine.activity_giveUp true error⟩
  | false =>
    have exchange := (engine.recordFailure error.kind).exchange_rearm
    exact ⟨⟨.of_exchange exchange rfl, frame.overwritten⟩, inactive rfl,
      engine.activity_giveUp false error⟩

theorem setPayload_overwritten (engine : Engine) (payload : Payload)
    (inactive : engine.board.transferActive = false) :
    (engine.setPayload payload).overwritten = engine.overwritten := by
  rw [setPayload_of_idle payload inactive]

theorem sent_launch (payload : Payload) (inactive : engine.board.transferActive = false) :
    engine.Sent (engine.launch payload) := by
  have request : Exchange engine.board [.setTransferRequests true]
      (engine.board.setTransferRequests true) := .single rfl
  refine ⟨⟨_, _, .of_exchange request rfl, inactive, .commands _ _ rfl⟩, rfl, ?_⟩
  rw [(engine.frame_launch payload).overwritten]
  exact engine.setPayload_overwritten payload inactive

theorem sent_launchPanel (inactive : engine.board.transferActive = false) :
    engine.Sent engine.launchPanel := by
  have request : Exchange engine.openPanel.board [.setTransferRequests true]
      (engine.openPanel.board.setTransferRequests true) := .single rfl
  have opened := engine.exchange_openPanel
  have stopped : engine.openPanel.board.transferActive = false :=
    (congrArg Settings.transferActive opened.settings_eq).trans inactive
  have unspoilt : engine.launchPanel.overwritten = engine.overwritten := by
    rw [engine.frame_launchPanel.overwritten, engine.frame_openPanel.overwritten]
    exact engine.setPayload_overwritten
      (Oled.setupPayload engine.config.panel engine.display.backlight) inactive
  exact ⟨⟨_, _, .of_exchange (opened.append request) rfl, stopped, .commands _ _ rfl⟩,
    rfl, unspoilt⟩

/-- A bring-up stops the channel, and a successful one hands over the setup. -/
theorem BroughtUp.stopped_or_sent {result : Except BringUpError PowerOn}
    (h : engine.BroughtUp result after) : engine.Stopped after ∨ engine.Sent after := by
  cases h with
  | floating =>
    exact .inl (.after_silent (stopped_giveUp _ _ nofun) engine.silent_checked)
  | undetected _ _ scan =>
    have traffic := (Bus.isTraffic_detect engine.config).of_error scan
    have silent := (engine.silent_checked.trans (silent_attach _)).trans (silent_setBus traffic)
    exact .inl (.after_silent (stopped_giveUp _ _ nofun) silent)
  | @unanswered address identified error bus named answer =>
    have traffic := (Bus.isTraffic_handshake address).of_error answer
    have silent := (named.silent.trans (silent_adopt _ _)).trans (silent_setBus traffic)
    have inactive := (transferActive_setBus traffic).trans (transferActive_adopt _ _)
    exact .inl (.after_silent (stopped_giveUp _ _ fun _ => inactive) silent)
  | @character address identified bus named answer =>
    have traffic := (Bus.isTraffic_handshake address).of_ok answer
    have silent := (named.silent.trans (silent_adopt _ _)).trans (silent_setBus traffic)
    have inactive := (transferActive_setBus traffic).trans (transferActive_adopt _ _)
    exact .inr (.after_silent (sent_launch _ inactive) silent)
  | @bitmap address identified named =>
    have silent := named.silent.trans (silent_adopt _ (.bitmap address))
    exact .inr (.after_silent (sent_launchPanel (transferActive_adopt _ _)) silent)

/-- A bring-up that ends without a display has started nothing. -/
theorem BroughtUp.silent_of_unknown {result : Except BringUpError PowerOn}
    (h : engine.BroughtUp result after) (unknown : after.mode = .unknown) : engine.Silent after := by
  obtain stopped | sent := h.stopped_or_sent
  · exact stopped.toSilent
  · cases h with
    | floating => exact absurd sent.activity (activity_giveUp _ _ _)
    | undetected => exact absurd sent.activity (activity_giveUp _ _ _)
    | unanswered => exact absurd sent.activity (activity_giveUp _ _ _)
    | character => cases unknown
    | bitmap => cases unknown

/-! ## Interrupts -/

theorem silent_acknowledged (engine : Engine) : engine.Silent engine.acknowledged :=
  .of_frame (.acknowledged engine) engine.exchange_acknowledged rfl

/-- The end of a transfer stops the channel and hands over what comes next, if anything. -/
theorem TransferDone.stopped_or_sent (h : engine.TransferDone after) :
    engine.Stopped after ∨ engine.Sent after := by
  have silent := engine.silent_acknowledged
  cases h with
  | unknown => exact .inl ⟨⟨silent.makes, rfl⟩, rfl, Activity.noConfusion⟩
  | frame =>
    refine .inr ⟨⟨_, _, silent.makes, rfl, .commands _ _ rfl⟩, rfl, ?_⟩
    exact engine.acknowledged.countFrame.setPayload_overwritten engine.currentFrame rfl
  | @row _ _ row =>
    refine .inr ⟨⟨_, _, silent.makes, rfl, .commands _ _ rfl⟩, rfl, ?_⟩
    exact engine.acknowledged.setPayload_overwritten (engine.currentRow row) rfl
  | @reopened _ bus _ closed =>
    have traffic := Bus.isTraffic_close.of_ok closed
    have inactive : bus.board.transferActive = false := transferActive_setBus traffic
    have opened : Exchange bus.board [.setEventIrq true, .requestStart]
        (engine.acknowledged.countFrame.reopen bus).board := .commands _ _ rfl
    have stopped : (engine.acknowledged.countFrame.reopen bus).board.transferActive = false :=
      (congrArg Settings.transferActive opened.settings_eq).trans inactive
    have makes := (silent.trans (silent_setBus traffic)).makes.trans (.of_exchange opened rfl)
    refine .inr ⟨⟨_, _, makes, stopped, .commands _ _ rfl⟩, rfl, ?_⟩
    exact (engine.acknowledged.countFrame.setBus bus).setPayload_overwritten
      (Oled.openingPayload engine.display.backlight) inactive
  | @notClosed _ _ bus _ failed =>
    have traffic := Bus.isTraffic_close.of_error failed
    have closing := silent.trans (silent_setBus traffic)
    exact .inl ⟨⟨closing.makes, rfl⟩, transferActive_setBus traffic, Activity.noConfusion⟩

theorem silent_aborted (engine : Engine) : engine.Silent engine.aborted :=
  ⟨.of_exchange engine.exchange_aborted rfl, engine.frame_aborted.overwritten⟩

/-- A bus error at a known display stops the channel, and a recovery hands over the setup. -/
theorem Recovered.stopped_or_sent {controller : Controller} (h : engine.Recovered after)
    (known : engine.mode.controller? = some controller) :
    engine.Stopped after ∨ engine.Sent after := by
  cases h with
  | unknown mode => rw [mode] at known; cases known
  | broughtUp _ result =>
    obtain stopped | sent := result.stopped_or_sent
    · exact .inl (stopped.after_silent engine.silent_aborted)
    · exact .inr (sent.after_silent engine.silent_aborted)

/-- A recovery aborts what was running, and all that it may start is the setup. -/
theorem Recovered.exchange {controller : Controller} (h : engine.Recovered after)
    (known : engine.mode.controller? = some controller) :
    ∃ calls, Exchange engine.board calls after.board ∧ .stopTransfer ∈ calls ∧
      ∀ bytes, .startTransfer bytes ∈ calls → bytes = (engine.firstPayload controller).bytes := by
  have restarted := h.restarted known
  have silent {calls : List Call} (all : calls.all Call.sendsNothing = true) (bytes : List UInt8) :
      .startTransfer bytes ∉ calls := by
    intro mem
    have sends := List.all_eq_true.1 all _ mem
    cases sends
  have abort (bytes : List UInt8) : .startTransfer bytes ∉
      [Call.clearErrors engine.board.master.flags.errors, .reset, .stopTransfer, .cancelAlarm] :=
    silent rfl bytes
  cases h with
  | unknown mode => rw [mode] at known; cases known
  | broughtUp _ result =>
    obtain stopped | sent := result.stopped_or_sent
    · obtain ⟨calls, exchange, all⟩ := stopped.makes
      refine ⟨_, engine.exchange_aborted.append exchange, by simp, ?_⟩
      intro bytes mem
      obtain mem | mem := List.mem_append.1 mem
      · exact absurd mem (abort bytes)
      · exact absurd mem (silent all bytes)
    · obtain ⟨ready, micros, ⟨calls, exchange, all⟩, _, start⟩ := sent.start
      refine ⟨_, engine.exchange_aborted.append (exchange.append start), by simp,
        fun bytes mem => ?_⟩
      rw [← restarted.payload sent.activity]
      obtain mem | mem := List.mem_append.1 mem
      · exact absurd mem (abort bytes)
      obtain mem | mem := List.mem_append.1 mem
      · exact absurd mem (silent all bytes)
      · simpa using mem

end Engine

end StatusDisplay
