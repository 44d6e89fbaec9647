import StatusDisplay.Proofs.Bus.Closing
import StatusDisplay.Proofs.Engine.Transfers
import StatusDisplay.Proofs.Run.Timeline

/-!
# How a step moves a transaction along

On a bitmap panel a transaction is opened without waiting for it: bus events are let through, and a
start condition is requested. `Engine.Moves` lists what a step can do about transactions. It adds
nothing, it starts the next row, or it opens a transaction, and then it has first seen to it that
the bus is free (`Settles`). Nothing else of a step matters to the order of what is on the wire.
-/

namespace StatusDisplay

/-- Calls that belong to the transaction under way: they open none, and request no start. -/
def Call.continues : Call → Bool
  | .setEventIrq on => !on
  | .requestStart => false
  | _ => true

theorem Call.continues_of_addsNothing (call : Call) (h : call.addsNothing = true) :
    call.continues = true := by
  cases call <;> first | rfl | exact h

theorem Call.opensNothing_of_isWiring (call : Call) (wiring : call.isWiring = true) :
    call.opensNothing = true := by
  cases call <;> first | rfl | cases wiring

theorem Call.addsNothing_of_isWiring (call : Call) (wiring : call.isWiring = true) :
    call.addsNothing = true := by
  cases call <;> first | rfl | cases wiring

theorem Call.addsNothing_of_isAddressing (call : Call) (addressing : call.isAddressing = true) :
    call.addsNothing = true := by
  cases call with
  | setEventIrq on => cases on <;> first | rfl | cases addressing
  | _ => first | rfl | cases addressing

theorem requestStart_not_mem {calls : List Call} (h : calls.all Call.addsNothing = true) :
    .requestStart ∉ calls := by
  intro mem
  have nothing := List.all_eq_true.1 h _ mem
  cases nothing

theorem Call.sendsNothing_of_addsNothing (call : Call) (h : call.addsNothing = true) :
    call.sendsNothing = true := by
  cases call <;> first | rfl | cases h

/-- The cursor of a bitmap panel. -/
def Mode.cursor? : Mode → Option Oled.Cursor
  | .bitmap _ cursor => some cursor
  | _ => none

/--
Calls after which the bus of the panel at `address` is free for the start condition that follows:
its transaction was closed, or the bus master was reset, or, at the first bring-up, the probe that
found the panel was closed. No start condition is requested in between.
-/
inductive Settles (address : UInt8) : Event → List Call → Prop where
  | closed {earlier closing : List Call} : Bus.Closes closing →
      Settles address (.interrupt .transferDone) (earlier ++ closing)
  | reset {earlier since : List Call} : .requestStart ∉ since →
      Settles address (.interrupt .busError) (earlier ++ .reset :: since)
  | probed {earlier probe since : List Call} : Bus.Probes address probe → .requestStart ∉ since →
      Settles address .bringUp (earlier ++ probe ++ since)

namespace Engine

variable {engine after : Engine}

/--
The first payload of a transaction that an event opens: the opening alone behind a transaction that
was closed, and behind the setup of the panel otherwise.
-/
def openingBytes (engine : Engine) : Event → List UInt8
  | .interrupt .transferDone => (Oled.openingPayload engine.display.backlight).bytes
  | _ => (Oled.setupPayload engine.config.panel engine.display.backlight).bytes

/--
Calls that neither open a transaction nor start a payload. Without a panel they may still probe, but
a panel that is known gets no start condition from them.
-/
structure Preparing (engine : Engine) (calls : List Call) : Prop where
  opens : calls.all Call.opensNothing = true
  sends : calls.all Call.sendsNothing = true
  adds : engine.mode.cursor?.isSome → calls.all Call.addsNothing = true

theorem Preparing.of_addsNothing {calls : List Call} (adds : calls.all Call.addsNothing = true) :
    engine.Preparing calls :=
  ⟨Call.all_mono adds Call.opensNothing_of_addsNothing,
    Call.all_mono adds Call.sendsNothing_of_addsNothing, fun _ => adds⟩

theorem Preparing.append {calls more : List Call} (h : engine.Preparing calls)
    (adds : more.all Call.addsNothing = true) : engine.Preparing (calls ++ more) := by
  have after : engine.Preparing more := .of_addsNothing adds
  refine ⟨?_, ?_, fun panel => ?_⟩
  · rw [List.all_append, h.opens, after.opens, Bool.and_self]
  · rw [List.all_append, h.sends, after.sends, Bool.and_self]
  · rw [List.all_append, h.adds panel, adds, Bool.and_self]

/-- What a step does about the transactions of a bitmap panel. -/
inductive Moves (engine : Engine) : Event → List Call → Engine → Prop where
  /-- Nothing is started. -/
  | nothing {event : Event} {calls : List Call} {after : Engine} :
      calls.all Call.addsNothing = true → after.mode = engine.mode → Moves engine event calls after
  /-- There is no panel, and as long as there is no display at all nothing is started. -/
  | elsewhere {event : Event} {calls : List Call} {after : Engine} :
      engine.mode.cursor? = none → after.mode.cursor? = none →
      calls.all Call.opensNothing = true →
      (after.mode = .unknown → engine.mode = .unknown ∧ calls.all Call.sendsNothing = true) →
      Moves engine event calls after
  /-- The next row is started. -/
  | row {event : Event} {address : UInt8} {cursor : Oled.Cursor} {row : Fin Text.rowCount}
      {micros : Nat} {after : Engine} :
      engine.mode = .bitmap address cursor → cursor.row? = some row →
      after.mode = .bitmap address cursor.advance →
      Moves engine event
        [.stopTransfer, .startTransfer (engine.currentRow row).bytes, .armAlarm micros] after
  /-- On a bus that is free a transaction is opened, and its first payload is started. -/
  | opened {event : Event} {address : UInt8} {settling tail : List Call} {after : Engine} :
      engine.mode = .unknown ∨ engine.mode.controller? = some (.bitmap address) →
      Settles address event settling → Preparing engine settling →
      tail.all Call.continues = true → tail.filterMap Call.transfer? = [engine.openingBytes event] →
      after.mode = .bitmap address .firstRow →
      Moves engine event (settling ++ .setEventIrq true :: .requestStart :: tail) after

/-! ## Bring-up -/

/-- A known controller is in use again without anything on the wire. -/
theorem makes_readopted (engine : Engine) (controller : Controller) :
    engine.board.Makes Call.addsNothing (engine.wake.attach.adopt controller).board :=
  ((engine.makes_wake_of_wiring rfl Call.addsNothing_of_isWiring).trans
    (.of_exchange (exchange_attach _) rfl)).trans (.of_exchange (exchange_adopt _ controller) rfl)

theorem opensNothing_checked_attach (engine : Engine) :
    engine.board.Makes Call.opensNothing engine.checked.board ∧
      engine.board.Makes Call.opensNothing engine.checked.attach.board := by
  have checked : engine.board.Makes Call.opensNothing engine.checked.board :=
    (engine.makes_wake_of_wiring rfl Call.opensNothing_of_isWiring).trans
      (engine.makes_checked.mono Call.opensNothing_of_isWiring)
  exact ⟨checked, checked.trans (.of_exchange (exchange_attach _) rfl)⟩

theorem opensNothing_giveUp (engine : Engine) (firstBoot : Bool) (error : BringUpError) :
    engine.board.Makes Call.opensNothing (engine.giveUp firstBoot error).board := by
  cases firstBoot with
  | true => exact .of_exchange (engine.recordFailure error.kind).exchange_shutDown rfl
  | false => exact .of_exchange (engine.recordFailure error.kind).exchange_rearm rfl

theorem Identified.opensNothing {controller : Controller} (h : engine.Identified controller after) :
    engine.board.Makes Call.opensNothing after.board := by
  cases h with
  | known =>
    exact (engine.makes_wake_of_wiring rfl Call.opensNothing_of_isWiring).trans
      (.of_exchange (exchange_attach _) rfl)
  | found _ _ scan =>
    have traffic := (Bus.isTraffic_detect engine.config).of_ok scan
    exact engine.opensNothing_checked_attach.2.trans
      (traffic.makes.mono Call.opensNothing_of_isTraffic)

/-- A display that was unknown is named by a probe, which is the last that the naming does. -/
theorem Identified.probes {controller : Controller} (h : engine.Identified controller after)
    (unknown : engine.mode = .unknown) : ∃ earlier probe,
      Exchange engine.board (earlier ++ probe) after.board ∧
        Bus.Probes controller.address probe := by
  cases h with
  | known mode =>
    rw [unknown] at mode
    cases mode
  | found _ _ scan =>
    obtain ⟨first, attached, _⟩ := engine.opensNothing_checked_attach.2
    obtain ⟨earlier, probe, exchange, probes⟩ := Bus.probes_of_detect scan
    refine ⟨first ++ earlier, probe, ?_, probes⟩
    rw [List.append_assoc]
    exact attached.append exchange

/-- The scan blanks the text, but it leaves the panel's setup as it was. -/
theorem Identified.setupPayload_eq {controller : Controller} (h : engine.Identified controller after) :
    Oled.setupPayload after.config.panel after.display.backlight =
      Oled.setupPayload engine.config.panel engine.display.backlight := by
  obtain frame | ⟨_, frame⟩ := h.frame
  · rw [frame.config, frame.display]
  · rw [frame.config, frame.display]
    rfl

/-- A bring-up opens no transaction unless it starts a panel. -/
theorem BroughtUp.elsewhere_or_panel {result : Except BringUpError PowerOn}
    (h : engine.BroughtUp result after) :
    after.mode.cursor? = none ∧ engine.board.Makes Call.opensNothing after.board ∨
      ∃ address identified, engine.Identified (.bitmap address) identified ∧
        after = (identified.adopt (.bitmap address)).launchPanel := by
  have tried {controller : Controller} {identified : Engine}
      (named : engine.Identified controller identified) (bus : Bus)
      (traffic : Bus.Traffic (identified.adopt controller).bus bus) :
      engine.board.Makes Call.opensNothing ((identified.adopt controller).setBus bus).board :=
    (named.opensNothing.trans (.of_exchange (identified.exchange_adopt controller) rfl)).trans
      (traffic.makes.mono Call.opensNothing_of_isTraffic)
  cases h with
  | floating =>
    refine .inl ⟨?_, engine.opensNothing_checked_attach.1.trans (opensNothing_giveUp _ _ _)⟩
    exact congrArg Mode.cursor? (frame_giveUp _ true _).mode
  | @undetected _ bus _ _ scan =>
    have traffic := (Bus.isTraffic_detect engine.config).of_error scan
    have scanned : engine.board.Makes Call.opensNothing (engine.checked.attach.setBus bus).board :=
      engine.opensNothing_checked_attach.2.trans
        (traffic.makes.mono Call.opensNothing_of_isTraffic)
    refine .inl ⟨?_, scanned.trans (opensNothing_giveUp _ _ _)⟩
    exact congrArg Mode.cursor? (frame_giveUp _ true _).mode
  | @unanswered address identified error bus named unanswered =>
    have traffic := (Bus.isTraffic_handshake address).of_error unanswered
    refine .inl ⟨?_, (tried named bus traffic).trans (opensNothing_giveUp _ _ _)⟩
    rw [(frame_giveUp _ _ _).mode]
    split <;> rfl
  | @character address identified bus named answered =>
    have traffic := (Bus.isTraffic_handshake address).of_ok answered
    exact .inl ⟨rfl, (tried named bus traffic).trans (.of_exchange (exchange_launch _ _) rfl)⟩
  | bitmap named => exact .inr ⟨_, _, named, rfl⟩

/-- A panel that is started behind calls that settle the bus opens a transaction. -/
theorem moves_launchPanel {event : Event} {address : UInt8} {identified : Engine}
    {settling : List Call}
    (settled : Exchange engine.board settling (identified.adopt (.bitmap address)).board)
    (settles : Settles address event (settling ++ [.configure .fast, .setErrorIrq true]))
    (noOther : engine.mode = .unknown ∨ engine.mode.controller? = some (.bitmap address))
    (prepares : engine.Preparing settling)
    (payload : (Oled.setupPayload identified.config.panel identified.display.backlight).bytes =
      engine.openingBytes event) :
    let after := (identified.adopt (.bitmap address)).launchPanel
    ∃ calls, Exchange engine.board calls after.board ∧ engine.Moves event calls after := by
  intro after
  have launched := (identified.adopt (.bitmap address)).exchange_launchPanel
  have frame := frame_adopt identified (.bitmap address)
  rw [frame.config, frame.display] at launched
  have exchange := settled.append launched
  have split (tail : List Call) : settling ++ .configure .fast :: .setErrorIrq true :: tail =
      settling ++ [.configure .fast, .setErrorIrq true] ++ tail := by
    rw [List.append_assoc]
    rfl
  rw [split] at exchange
  exact ⟨_, exchange, .opened noOther settles (prepares.append rfl) rfl
    (congrArg List.singleton payload) (mode_launchPanel identified address)⟩

/-- The first bring-up opens a transaction behind the probe that has found a panel. -/
theorem BroughtUp.moves {result : Except BringUpError PowerOn} (h : engine.BroughtUp result after)
    (unknown : engine.mode = .unknown) :
    ∃ calls, Exchange engine.board calls after.board ∧ engine.Moves .bringUp calls after := by
  have noPanel : engine.mode.cursor? = none := congrArg Mode.cursor? unknown
  obtain ⟨mode, calls, exchange, opensNothing⟩ | ⟨address, identified, named, rfl⟩ :=
    h.elsewhere_or_panel
  · refine ⟨calls, exchange, .elsewhere noPanel mode opensNothing fun after => ⟨unknown, ?_⟩⟩
    obtain ⟨_, exchange', sends⟩ := (h.silent_of_unknown after).makes
    obtain rfl := exchange.unique exchange'
    exact sends
  · obtain ⟨earlier, probe, probing, probes⟩ := named.probes unknown
    obtain ⟨_, exchange, opens⟩ := named.opensNothing
    obtain ⟨_, exchange', sends⟩ := named.silent.makes
    obtain rfl := exchange.unique probing
    obtain rfl := exchange.unique exchange'
    have named' : engine.Preparing (earlier ++ probe) := by
      refine ⟨opens, sends, fun panel => ?_⟩
      rw [noPanel] at panel
      cases panel
    have adopted := identified.exchange_adopt (.bitmap address)
    refine moves_launchPanel (exchange.append adopted) ?_ (.inl unknown) (named'.append rfl)
      (congrArg Payload.bytes named.setupPayload_eq)
    rw [List.append_assoc]
    exact .probed probes (by simp)

/-! ## Interrupts -/

/-- A panel that is brought up again opens a transaction behind a reset of the bus master. -/
theorem moves_readopted {address : UInt8} (known : engine.mode.controller? = some (.bitmap address)) :
    let after := (engine.aborted.wake.attach.adopt (.bitmap address)).launchPanel
    ∃ calls, Exchange engine.board calls after.board ∧
      engine.Moves (.interrupt .busError) calls after := by
  obtain ⟨calls, exchange, adds⟩ := engine.aborted.makes_readopted (.bitmap address)
  have resets : Exchange engine.board ([.clearErrors engine.board.master.flags.errors] ++
      .reset :: (.stopTransfer :: .cancelAlarm :: calls))
      (engine.aborted.wake.attach.adopt (.bitmap address)).board :=
    engine.exchange_aborted.append exchange
  have aborting : (Call.stopTransfer :: .cancelAlarm :: calls).all Call.addsNothing = true := adds
  have since : ((Call.stopTransfer :: .cancelAlarm :: calls) ++
      [Call.configure .fast, .setErrorIrq true]).all Call.addsNothing = true := by
    rw [List.all_append, aborting]
    rfl
  refine moves_launchPanel resets ?_ (.inr known) (.of_addsNothing aborting) rfl
  rw [List.append_assoc]
  exact .reset (requestStart_not_mem since)

/-- A bus error resets the bus master before it opens a transaction. -/
theorem Recovered.moves (h : engine.Recovered after) : ∃ calls,
    Exchange engine.board calls after.board ∧ engine.Moves (.interrupt .busError) calls after := by
  cases h with
  | unknown => exact ⟨_, engine.exchange_noted, .nothing rfl engine.frame_noted.mode⟩
  | @broughtUp controller result _ known broughtUp =>
    have restarted := (Recovered.broughtUp known broughtUp).restarted known
    have aborted : engine.aborted.mode.controller? = some controller := by
      rw [engine.frame_aborted.mode]
      exact known
    obtain ⟨mode, calls, exchange, opens⟩ | ⟨address, identified, named, rfl⟩ :=
      broughtUp.elsewhere_or_panel
    · -- A panel that is known would have been started.
      have noPanel : engine.mode.cursor? = none := by
        rw [restarted.mode] at mode
        cases before : engine.mode with
        | bitmap =>
          rw [before] at known
          cases known
          cases mode
        | _ => rfl
      refine ⟨_, engine.exchange_aborted.append exchange, .elsewhere noPanel mode ?_ ?_⟩
      · rw [List.all_append, opens]
        rfl
      · intro unknown
        rw [restarted.mode] at unknown
        cases controller <;> cases unknown
    · obtain ⟨rfl, rfl⟩ := named.eq_of_known aborted
      exact moves_readopted known

/-- The end of a transfer starts the next row, or a transaction behind one that it has closed. -/
theorem TransferDone.moves (h : engine.TransferDone after) : ∃ calls,
    Exchange engine.board calls after.board ∧
      engine.Moves (.interrupt .transferDone) calls after := by
  have stopped := engine.exchange_acknowledged
  cases h with
  | unknown => exact ⟨_, stopped, .nothing rfl rfl⟩
  | frame mode =>
    have noPanel : engine.mode.cursor? = none := congrArg Mode.cursor? mode
    refine ⟨_, engine.exchange_nextFrame, .elsewhere noPanel noPanel rfl fun unknown => ?_⟩
    have known : engine.mode = .unknown := unknown
    rw [mode] at known
    cases known
  | @row address cursor row mode next =>
    have moved : engine.mode.withCursor cursor.advance = .bitmap address cursor.advance :=
      congrArg (Mode.withCursor · cursor.advance) mode
    exact ⟨_, engine.exchange_nextRow row cursor.advance, .row mode next moved⟩
  | @reopened address bus mode closed =>
    obtain ⟨closing, exchange, closes⟩ := Bus.leads_close.of_ok closed
    have opened := engine.acknowledged.countFrame.exchange_reopen bus
    have moved : engine.mode.withCursor .firstRow = .bitmap address .firstRow :=
      congrArg (Mode.withCursor · .firstRow) mode
    have adds : (Call.stopTransfer :: closing).all Call.addsNothing = true := closes.addsNothing
    refine ⟨_, (stopped.append exchange).append opened, ?_⟩
    exact .opened (.inr (congrArg Mode.controller? mode)) (.closed closes) (.of_addsNothing adds)
      rfl rfl moved
  | notClosed mode failed =>
    obtain ⟨closing, exchange, adds⟩ := Bus.leads_close.of_error failed
    exact ⟨_, stopped.append exchange, .nothing adds rfl⟩

end Engine

/-- What a step of a run does about transactions. -/
theorem Step.moves (step : Step) (fresh : step.event = .bringUp → step.before.mode = .unknown) :
    step.before.Moves step.event step.calls step.after := by
  obtain ⟨before, event, after, taken⟩ := step
  have stepped : before.Stepped event after := Step.stepped ⟨before, event, after, taken⟩
  have of_exchange (moves : ∃ calls, Exchange before.board calls after.board ∧
      before.Moves event calls after) :
      before.Moves event (Step.calls ⟨before, event, after, taken⟩) after := by
    obtain ⟨calls, exchange, moves⟩ := moves
    rw [calls_eq exchange]
    exact moves
  have silent (same : after.board.trace = before.board.trace) (mode : after.mode = before.mode) :
      before.Moves event (Step.calls ⟨before, event, after, taken⟩) after := by
    rw [calls_of_trace_eq same]
    exact .nothing rfl mode
  cases stepped with
  | broughtUp result => exact of_exchange (result.moves (fresh rfl))
  | busEvent =>
    obtain ⟨calls, exchange, addressing⟩ := before.makes_onBusEvent
    have adds := Call.all_mono addressing Call.addsNothing_of_isAddressing
    exact of_exchange ⟨calls, exchange, .nothing adds (Engine.Frame.onBusEvent before).mode⟩
  | recovered result => exact of_exchange result.moves
  | transferDone result => exact of_exchange result.moves
  | world => exact silent rfl rfl
  | foreground => exact silent rfl rfl

end StatusDisplay
