import StatusDisplay.Proofs.Board.Matched
import StatusDisplay.Proofs.Bus.Present
import StatusDisplay.Proofs.Engine.Frame
import StatusDisplay.Proofs.Engine.Readied
import StatusDisplay.Proofs.Engine.Scene

/-!
# Engines that do the same, whatever they show

Two engines may differ in what they show and in the past of their boards, and refresh the same display
at the same point of a frame. What happens to one of them, happening to the other, leads to the same
calls, but for the bytes that are transferred, and to engines that are such twins again. Each step of
the engine mirrors itself in this way; the transactions by hand do because they do not look back.
-/

namespace StatusDisplay

/-- A bus event finds the same flags on boards that are alike. -/
theorem Bus.together_onEvent (address : UInt8) {first second : Bus}
    (alike : first.board.Alike second.board) :
    first.board.Together second.board (first.onEvent address).board
      (second.onEvent address).board := by
  have look : first.board.Together second.board first.board.readStatus second.board.readStatus := by
    refine ⟨_, .readStatus first.board, ?_⟩
    rw [alike.status]
    exact .readStatus second.board
  have send (sent : Bool) (board board' : Board) : board.Together board'
      (if sent then board.writeData (address <<< 1) else board)
      (if sent then board'.writeData (address <<< 1) else board') := by
    cases sent with
    | true => exact ⟨_, .writeData board _, .writeData board' _⟩
    | false => exact .refl _ _
  have acknowledge (acked : Bool) (board board' : Board) : board.Together board'
      (if acked then board.acknowledgeAddress.setEventIrq false else board)
      (if acked then board'.acknowledgeAddress.setEventIrq false else board') := by
    cases acked with
    | true =>
      exact ⟨[.acknowledgeAddress, .setEventIrq false], .commands board _ rfl, .commands board' _ rfl⟩
    | false => exact .refl _ _
  unfold onEvent
  rw [← alike.status]
  exact (look.trans (send _ _ _)).trans (acknowledge _ _ _)

namespace Engine

variable {first second first' second' first'' second'' : Engine} {controller : Controller}

/-- The engines differ in their displays, their payloads and the past of their boards only. -/
structure Twins (first second : Engine) : Prop where
  config : first.config = second.config
  watchdog : first.watchdog.timeout = second.watchdog.timeout
  mode : first.mode = second.mode
  bus : first.bus.Alike second.bus

/-- Matching calls lead from the first pair of engines to a second pair, which are twins. -/
structure Mirrors (first second first' second' : Engine) : Prop where
  calls : first.board.Matched second.board first'.board second'.board
  twins : first'.Twins second'

theorem Mirrors.trans (h : first.Mirrors second first' second')
    (h' : first'.Mirrors second' first'' second'') : first.Mirrors second first'' second'' :=
  ⟨h.calls.trans h'.calls, h'.twins⟩

namespace Twins

variable (twins : first.Twins second)
include twins

/-- Steps that keep what an engine was set up with mirror each other if they make matching calls. -/
theorem mirrors (calls : first.board.Matched second.board first'.board second'.board)
    (setup : first.SameSetup first') (setup' : second.SameSetup second')
    (patience : first'.bus.timeout = first.bus.timeout)
    (patience' : second'.bus.timeout = second.bus.timeout)
    (alive : first'.bus.alive = second'.bus.alive) (mode : first'.mode = second'.mode) :
    first.Mirrors second first' second' where
  calls := calls
  twins := {
    config := by rw [setup.config, setup'.config, twins.config]
    watchdog := by rw [setup.timeout, setup'.timeout, twins.watchdog]
    mode := mode
    bus := {
      board := calls.alike twins.bus.board
      timeout := by rw [patience, patience', twins.bus.timeout]
      alive := alive } }

/-! ## Bring-up -/

theorem wake : first.Mirrors second first.wake second.wake := by
  have woken := together_wake twins.bus.board.wired
  exact twins.mirrors woken.matched (Frame.wake first).sameSetup (Frame.wake second).sameSetup
    (patience_wake first) (patience_wake second) rfl twins.mode

theorem attach : first.Mirrors second first.attach second.attach := by
  have attached : first.board.Together second.board first.attach.board second.attach.board :=
    ⟨_, exchange_attach first, exchange_attach second⟩
  exact twins.mirrors attached.matched (Frame.attach first).sameSetup (Frame.attach second).sameSetup
    (patience_attach first) (patience_attach second) twins.bus.alive twins.mode

theorem adopt (controller : Controller) :
    first.Mirrors second (first.adopt controller) (second.adopt controller) := by
  have adopted := exchange_adopt first controller
  have adopted' := exchange_adopt second controller
  rw [← twins.config, ← twins.watchdog] at adopted'
  have calls : first.board.Together second.board (first.adopt controller).board
      (second.adopt controller).board := ⟨_, adopted, adopted'⟩
  have alive := (first.alive_adopt controller).trans
    (twins.bus.alive.trans (second.alive_adopt controller).symm)
  have mode := (frame_adopt first controller).mode.trans (frame_adopt second controller).mode.symm
  exact twins.mirrors calls.matched (sameSetup_adopt _ _) (sameSetup_adopt _ _) (patience_adopt _ _)
    (patience_adopt _ _) alive mode

/-- A transaction by hand that leaves the buses alike. -/
theorem setBus {bus bus' : Bus}
    (calls : first.board.Together second.board bus.board bus'.board) (alike : bus.Alike bus') :
    first.Mirrors second (first.setBus bus) (second.setBus bus') where
  calls := calls.matched
  twins := { config := twins.config, watchdog := twins.watchdog, mode := twins.mode, bus := alike }

theorem giveUp (firstBoot : Bool) (error : BringUpError) :
    first.Mirrors second (first.giveUp firstBoot error) (second.giveUp firstBoot error) := by
  have calls := together_giveUp first second twins.watchdog firstBoot error
  have alive := (first.alive_giveUp firstBoot error).trans
    (twins.bus.alive.trans (second.alive_giveUp firstBoot error).symm)
  have mode : (first.giveUp firstBoot error).mode = (second.giveUp firstBoot error).mode := by
    rw [(frame_giveUp first firstBoot error).mode, (frame_giveUp second firstBoot error).mode]
    show (if firstBoot then Mode.unknown else first.mode) = _
    rw [twins.mode]
  exact twins.mirrors calls.matched (sameSetup_giveUp _ _ _) (sameSetup_giveUp _ _ _)
    (patience_giveUp _ _ _) (patience_giveUp _ _ _) alive mode

/-- The payloads may differ. -/
theorem launch (payload payload' : Payload) :
    first.Mirrors second (first.launch payload) (second.launch payload') := by
  have launched' := second.exchange_launch payload'
  rw [← twins.watchdog] at launched'
  have calls : first.board.Matched second.board (first.launch payload).board
      (second.launch payload').board := ⟨_, _, first.exchange_launch payload, launched', rfl⟩
  exact twins.mirrors calls (sameSetup_launch _ _) (sameSetup_launch _ _) (patience_launch _ _)
    (patience_launch _ _) twins.bus.alive twins.mode

theorem launchPanel : first.Mirrors second first.launchPanel second.launchPanel := by
  have launched' := second.exchange_launchPanel
  rw [← twins.watchdog] at launched'
  have calls : first.board.Matched second.board first.launchPanel.board second.launchPanel.board :=
    ⟨_, _, first.exchange_launchPanel, launched', rfl⟩
  have alive := first.alive_launchPanel.trans (twins.bus.alive.trans second.alive_launchPanel.symm)
  have mode : first.mode.withCursor .firstRow = second.mode.withCursor .firstRow := by rw [twins.mode]
  exact twins.mirrors calls (sameSetup_launchPanel _) (sameSetup_launchPanel _)
    (patience_launchPanel _) (patience_launchPanel _) alive mode

/-- A transaction by hand succeeds on both engines, or fails on both. -/
theorem transact {ε α : Type} {steps : EStateM ε Bus α} (h : Bus.LooksAhead steps) :
    (∃ value bus bus', steps first.bus = .ok value bus ∧ steps second.bus = .ok value bus' ∧
      first.Mirrors second (first.setBus bus) (second.setBus bus')) ∨
    ∃ error bus bus', steps first.bus = .error error bus ∧ steps second.bus = .error error bus' ∧
      first.Mirrors second (first.setBus bus) (second.setBus bus') := by
  obtain ⟨value, bus, bus', run, run', calls, alike⟩ | ⟨error, bus, bus', run, run', calls, alike⟩ :=
    (h _ _ twins.bus).cases
  · exact .inl ⟨value, bus, bus', run, run', twins.setBus calls alike⟩
  · exact .inr ⟨error, bus, bus', run, run', twins.setBus calls alike⟩

end Twins

/-- **Twins that have named the same controller bring it up in the same way.** -/
theorem Twins.bringUp {identified identified' : Engine} (twins : identified.Twins identified')
    (named : first.wake.identify first.mode.controller? = (.ok controller, identified))
    (named' : second.wake.identify second.mode.controller? = (.ok controller, identified'))
    (boot : first.mode.controller?.isNone = second.mode.controller?.isNone) :
    ∃ result after after', first.bringUp = .ok (result, after) ∧
      second.bringUp = .ok (result, after') ∧
        identified.Mirrors identified' after after' ∧ after.activity = after'.activity := by
  have adopted := twins.adopt controller
  cases controller with
  | character address =>
    obtain ⟨_, bus, bus', run, run', answered⟩ | ⟨error, bus, bus', run, run', silent⟩ :=
      adopted.twins.transact (Bus.looksAhead_handshake address)
    · have brought := bringUp_of_started named (startRefresh_of_ok run)
      have brought' := bringUp_of_started named' (startRefresh_of_ok run')
      rw [← boot] at brought'
      exact ⟨_, _, _, brought, brought',
        (adopted.trans answered).trans (answered.twins.launch _ _), rfl⟩
    · have brought := bringUp_of_unstarted named (startRefresh_of_error run)
      have brought' := bringUp_of_unstarted named' (startRefresh_of_error run')
      rw [← boot] at brought'
      refine ⟨_, _, _, brought, brought',
        (adopted.trans silent).trans (silent.twins.giveUp _ _), ?_⟩
      rw [(frame_giveUp _ _ _).activity, (frame_giveUp _ _ _).activity]
      rfl
  | bitmap address =>
    have brought := bringUp_of_started named (startRefresh_bitmap _ address)
    have brought' := bringUp_of_started named' (startRefresh_bitmap _ address)
    rw [← boot] at brought'
    exact ⟨_, _, _, brought, brought', adopted.trans adopted.twins.launchPanel, rfl⟩

/-! ## Interrupts -/

namespace Twins

variable (twins : first.Twins second)
include twins

theorem aborted : first.Mirrors second first.aborted second.aborted := by
  have aborted' := second.exchange_aborted
  have same : second.board.master = first.board.master := twins.bus.board.master.symm
  rw [same] at aborted'
  have calls : first.board.Together second.board first.aborted.board second.aborted.board :=
    ⟨_, first.exchange_aborted, aborted'⟩
  exact twins.mirrors calls.matched (sameSetup_aborted _) (sameSetup_aborted _) rfl rfl
    twins.bus.alive twins.mode

theorem onBusEvent : first.Mirrors second first.onBusEvent second.onBusEvent := by
  have calls : first.board.Together second.board first.onBusEvent.board second.onBusEvent.board := by
    unfold Engine.onBusEvent
    rw [← twins.mode]
    cases first.mode.controller? with
    | none => exact .refl _ _
    | some controller => exact Bus.together_onEvent controller.address twins.bus.board
  have alive (engine : Engine) : engine.onBusEvent.bus.alive = engine.bus.alive := by
    unfold Engine.onBusEvent
    split <;> rfl
  have patience (engine : Engine) : engine.onBusEvent.bus.timeout = engine.bus.timeout := by
    unfold Engine.onBusEvent
    split <;> rfl
  have mode : first.onBusEvent.mode = second.onBusEvent.mode := by
    rw [(Frame.onBusEvent first).mode, (Frame.onBusEvent second).mode, twins.mode]
  exact twins.mirrors calls.matched (Frame.onBusEvent first).sameSetup
    (Frame.onBusEvent second).sameSetup (patience first) (patience second)
    ((alive first).trans (twins.bus.alive.trans (alive second).symm)) mode

/-- A display that is known is brought up again in the same way. -/
theorem bringUp_of_known (known : first.mode.controller? = some controller) : ∃ after after',
    (∃ result, first.bringUp = .ok (result, after)) ∧
      (∃ result, second.bringUp = .ok (result, after')) ∧
        first.Mirrors second after after' ∧ after.activity = after'.activity := by
  have known' : second.mode.controller? = some controller := twins.mode ▸ known
  have woken := twins.wake
  have attached := woken.trans woken.twins.attach
  have same : first.mode.controller?.isNone = second.mode.controller?.isNone := by rw [twins.mode]
  obtain ⟨result, after, after', brought, brought', started, activity⟩ :=
    attached.twins.bringUp (identify_of_known known) (identify_of_known known') same
  exact ⟨after, after', ⟨result, brought⟩, ⟨result, brought'⟩, attached.trans started, activity⟩

/-- A bus error is answered in the same way. -/
theorem onBusError (known : first.mode.controller? = some controller) : ∃ after after',
    first.onBusError = .ok after ∧ second.onBusError = .ok after' ∧
      first.Mirrors second after after' ∧ after.activity = after'.activity := by
  have known' : second.mode.controller? = some controller := twins.mode ▸ known
  have aborted := twins.aborted
  obtain ⟨after, after', ⟨_, brought⟩, ⟨_, brought'⟩, again, activity⟩ :=
    aborted.twins.bringUp_of_known (controller?_aborted known)
  exact ⟨after, after', onBusError_of_known known brought, onBusError_of_known known' brought',
    aborted.trans again, activity⟩

theorem acknowledged : first.Mirrors second first.acknowledged second.acknowledged := by
  have calls : first.board.Together second.board first.acknowledged.board second.acknowledged.board :=
    ⟨_, first.exchange_acknowledged, second.exchange_acknowledged⟩
  exact twins.mirrors calls.matched (Frame.acknowledged _).sameSetup (Frame.acknowledged _).sameSetup
    rfl rfl twins.bus.alive twins.mode

theorem startTransfer : first.Mirrors second first.startTransfer second.startTransfer := by
  have started' := second.exchange_startTransfer
  rw [← twins.watchdog] at started'
  have calls : first.board.Matched second.board first.startTransfer.board second.startTransfer.board :=
    ⟨_, _, first.exchange_startTransfer, started', rfl⟩
  exact twins.mirrors calls ⟨rfl, rfl⟩ ⟨rfl, rfl⟩ (patience_startTransfer _)
    (patience_startTransfer _) twins.bus.alive twins.mode

/-- The next transaction of a panel is opened in the same way. -/
theorem reopen : first.Mirrors second (first.reopen first.bus) (second.reopen second.bus) := by
  have calls : first.board.Together second.board (first.reopen first.bus).board
      (second.reopen second.bus).board :=
    ⟨[.setEventIrq true, .requestStart], .commands _ _ rfl, .commands _ _ rfl⟩
  have mode : first.mode.withCursor .firstRow = second.mode.withCursor .firstRow := by rw [twins.mode]
  exact twins.mirrors calls.matched ⟨rfl, rfl⟩ ⟨rfl, rfl⟩ rfl rfl twins.bus.alive mode

end Twins

/-! ## The end of a transfer -/

/-- The end of a transfer is answered in the same way. -/
def DoneAlike (first second : Engine) : Prop := ∃ after after',
  first.onTransferDone = .ok after ∧ second.onTransferDone = .ok after' ∧
    first.Mirrors second after after' ∧ after.activity = after'.activity

theorem Mirrors.doneAlike_of_more (ready : first.Mirrors second first' second')
    (filled : first.acknowledged.refill = .ok (true, first'))
    (filled' : second.acknowledged.refill = .ok (true, second')) : first.DoneAlike second :=
  ⟨_, _, onTransferDone_of_more filled, onTransferDone_of_more filled',
    ready.trans ready.twins.startTransfer, rfl⟩

theorem Mirrors.doneAlike_of_none (stopped : first.Mirrors second first' second')
    (empty : first.acknowledged.refill = .ok (false, first'))
    (empty' : second.acknowledged.refill = .ok (false, second')) : first.DoneAlike second := by
  have idle := stopped.twins
  exact ⟨_, _, onTransferDone_of_none empty, onTransferDone_of_none empty',
    ⟨stopped.calls, ⟨idle.config, idle.watchdog, idle.mode, idle.bus⟩⟩, rfl⟩

/-- Behind both rows a transaction is closed on both panels, or on neither. -/
theorem Twins.doneAlike_of_reopen {address : UInt8} (twins : first.Twins second)
    (mode : first.mode = .bitmap address .reopen) : first.DoneAlike second := by
  have mode' : second.mode = .bitmap address .reopen := twins.mode ▸ mode
  have acked := twins.acknowledged
  have counted : first.acknowledged.countFrame.Twins second.acknowledged.countFrame :=
    ⟨acked.twins.config, acked.twins.watchdog, acked.twins.mode, acked.twins.bus⟩
  obtain ⟨_, bus, bus', run, run', closed⟩ | ⟨error, bus, bus', run, run', stopped⟩ :=
    counted.transact Bus.looksAhead_close
  · have opened := closed.trans closed.twins.reopen
    have ready : first.Mirrors second (first.acknowledged.countFrame.reopen bus)
        (second.acknowledged.countFrame.reopen bus') := ⟨acked.calls.trans opened.calls, opened.twins⟩
    exact ready.doneAlike_of_more (refill_reopen mode run) (refill_reopen mode' run')
  · have idle : first.Mirrors second (first.acknowledged.countFrame.setBus bus)
        (second.acknowledged.countFrame.setBus bus') := ⟨acked.calls.trans stopped.calls, stopped.twins⟩
    exact idle.doneAlike_of_none (refill_notClosed mode run) (refill_notClosed mode' run')

theorem Twins.doneAlike_of_row {address : UInt8} {cursor : Oled.Cursor} {row : Fin Text.rowCount}
    (twins : first.Twins second) (mode : first.mode = .bitmap address cursor)
    (next : cursor.row? = some row) : first.DoneAlike second := by
  have mode' : second.mode = .bitmap address cursor := twins.mode ▸ mode
  have acked := twins.acknowledged
  have moved : first.mode.withCursor cursor.advance = second.mode.withCursor cursor.advance := by
    rw [twins.mode]
  let drawn := first.acknowledged.setPayload (first.acknowledged.currentRow row)
  let drawn' := second.acknowledged.setPayload (second.acknowledged.currentRow row)
  have ready : first.Mirrors second (drawn.setCursor cursor.advance) (drawn'.setCursor cursor.advance) :=
    ⟨acked.calls, ⟨acked.twins.config, acked.twins.watchdog, moved, acked.twins.bus⟩⟩
  exact ready.doneAlike_of_more (refill_row mode next) (refill_row mode' next)

theorem Twins.doneAlike_of_frame {address : UInt8} (twins : first.Twins second)
    (mode : first.mode = .character address) : first.DoneAlike second := by
  have mode' : second.mode = .character address := twins.mode ▸ mode
  have acked := twins.acknowledged
  let filled := first.acknowledged.countFrame.setPayload first.acknowledged.currentFrame
  let filled' := second.acknowledged.countFrame.setPayload second.acknowledged.currentFrame
  have ready : first.Mirrors second filled filled' :=
    ⟨acked.calls, ⟨acked.twins.config, acked.twins.watchdog, acked.twins.mode, acked.twins.bus⟩⟩
  exact ready.doneAlike_of_more (refill_character mode) (refill_character mode')

/-- Twins answer the end of a transfer in the same way. -/
theorem Twins.onTransferDone (twins : first.Twins second) : first.DoneAlike second := by
  cases mode : first.mode with
  | unknown =>
    have mode' : second.mode = .unknown := twins.mode ▸ mode
    exact twins.acknowledged.doneAlike_of_none (refill_unknown mode) (refill_unknown mode')
  | character address => exact twins.doneAlike_of_frame mode
  | bitmap address cursor =>
    cases next : cursor.row? with
    | some row => exact twins.doneAlike_of_row mode next
    | none =>
      rw [Oled.Cursor.row?_eq_none_iff] at next
      subst next
      exact twins.doneAlike_of_reopen mode

end Engine

end StatusDisplay
