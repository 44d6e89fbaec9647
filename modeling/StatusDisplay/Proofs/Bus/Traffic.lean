import StatusDisplay.Bus.Scan
import StatusDisplay.Proofs.Board.Settings

/-!
# Steps of the bus are traffic

Every wait, every transaction by hand and the whole scan consist of traffic calls, whether they
succeed or fail; so none of them changes the settings of the board (`Traffic.settings_eq`). The
property passes through sequencing and loops (`IsTraffic.bind`, `IsTraffic.forM`), and the two
polling loops have it by induction on the clock that bounds them.
-/

namespace StatusDisplay.Bus

/-- From the first bus to the second only traffic calls were made, and the patience is the same. -/
structure Traffic (before after : Bus) : Prop where
  timeout : after.timeout = before.timeout
  makes : before.board.Makes Call.isTraffic after.board

namespace Traffic

variable {first second third : Bus}

theorem refl (bus : Bus) : Traffic bus bus := ⟨rfl, .refl bus.board⟩

theorem trans (h : Traffic first second) (h' : Traffic second third) : Traffic first third :=
  ⟨h'.timeout.trans h.timeout, h.makes.trans h'.makes⟩

/-- One traffic call. -/
theorem single {bus after : Bus} {call : Call} (exchange : Exchange bus.board [call] after.board)
    (traffic : call.isTraffic = true) (timeout : after.timeout = bus.timeout) :
    Traffic bus after := by
  refine ⟨timeout, .of_exchange exchange ?_⟩
  rw [List.all_cons, traffic, List.all_nil, Bool.and_self]

theorem settings_eq (h : Traffic first second) : second.board.settings = first.board.settings := by
  obtain ⟨calls, exchange, all⟩ := h.makes
  rw [exchange.settings_eq, Settings.afterAll_traffic _ all]

end Traffic

/-- The bus that steps leave behind, whether or not they failed. -/
def after {ε α : Type} : EStateM.Result ε Bus α → Bus
  | .ok _ bus | .error _ bus => bus

/-- Steps that make traffic calls only, on every bus and with every outcome. -/
def IsTraffic {ε α : Type} (steps : EStateM ε Bus α) : Prop :=
  ∀ bus, Traffic bus (after (steps bus))

namespace IsTraffic

variable {ε α β : Type}

theorem pure (value : α) : IsTraffic (Pure.pure value : EStateM ε Bus α) :=
  fun bus => .refl bus

theorem bind {steps : EStateM ε Bus α} {next : α → EStateM ε Bus β} (h : IsTraffic steps)
    (h' : ∀ value, IsTraffic (next value)) : IsTraffic (steps >>= next) := by
  intro bus
  have first := h bus
  show Traffic bus (after (EStateM.bind steps next bus))
  unfold EStateM.bind
  cases run : steps bus with
  | ok value middle =>
    rw [run] at first
    exact first.trans (h' value middle)
  | error error middle =>
    rw [run] at first
    exact first

theorem of_ok {steps : EStateM ε Bus α} {value : α} {bus next : Bus} (h : IsTraffic steps)
    (run : steps bus = .ok value next) : Traffic bus next := by
  have traffic := h bus
  rw [run] at traffic
  exact traffic

theorem of_error {steps : EStateM ε Bus α} {error : ε} {bus next : Bus} (h : IsTraffic steps)
    (run : steps bus = .error error next) : Traffic bus next := by
  have traffic := h bus
  rw [run] at traffic
  exact traffic

/-- A step for each of `values`, in their order. -/
theorem forM {step : α → BusM Unit} (values : List α) (h : ∀ value, IsTraffic (step value)) :
    IsTraffic (values.forM step) := by
  induction values with
  | nil => exact pure ()
  | cons value values ih => exact bind (h value) fun _ => ih

/-- A step of the board that is one traffic call. -/
theorem perform {f : Board → Board} {call : Board → Call}
    (exchange : ∀ board, Exchange board [call board] (f board))
    (traffic : ∀ board, (call board).isTraffic = true) : IsTraffic (Bus.perform f) :=
  fun bus => .single (exchange bus.board) (traffic bus.board) rfl

end IsTraffic

/-! ## Waits -/

theorem traffic_readStatus (bus : Bus) : Traffic bus bus.readStatus :=
  .single (.readStatus bus.board) rfl rfl

theorem traffic_faulted (bus : Bus) (clears : Bool) : Traffic bus (bus.faulted clears) := by
  cases clears with
  | false => exact .refl bus
  | true => exact .single (.clearErrors bus.board) rfl rfl

theorem traffic_died (bus : Bus) : Traffic bus bus.died := ⟨rfl, .refl bus.board⟩

theorem traffic_readStop (bus : Bus) : Traffic bus bus.readStop :=
  .single (.pollStop bus.board) rfl rfl

theorem traffic_poll (flags : Status) (clears : Bool) (start : Nat) (bus : Bus) :
    Traffic bus (after (poll flags clears start bus)) := by
  fun_induction poll flags clears start bus with
  | case1 bus => exact traffic_readStatus bus
  | case2 bus => exact (traffic_readStatus bus).trans (traffic_faulted _ clears)
  | case3 bus => exact (traffic_readStatus bus).trans (traffic_died _)
  | case4 bus _ _ _ ih => exact (traffic_readStatus bus).trans ih

theorem traffic_pollStop (start : Nat) (bus : Bus) :
    Traffic bus (after (pollStop start bus)) := by
  fun_induction pollStop start bus with
  | case1 bus => exact (traffic_readStop bus).trans (traffic_died _)
  | case2 bus _ _ ih => exact (traffic_readStop bus).trans ih
  | case3 bus => exact traffic_readStop bus

theorem isTraffic_waitFor (flags : Status) : IsTraffic (waitFor flags) :=
  fun bus => traffic_poll flags true bus.board.clock bus

/-! ## Transactions by hand -/

theorem isTraffic_writeData (value : UInt8) : IsTraffic (perform (·.writeData value)) :=
  .perform (fun board => .writeData board value) fun _ => rfl

theorem isTraffic_stop : IsTraffic stop :=
  .bind (.perform .requestStop fun _ => rfl) fun _ bus => traffic_pollStop bus.board.clock bus

theorem isTraffic_start (address : UInt8) : IsTraffic (start address) :=
  .bind (.perform .requestStart fun _ => rfl) fun _ =>
    .bind (isTraffic_waitFor _) fun _ =>
      .bind (isTraffic_writeData _) fun _ =>
        .bind (isTraffic_waitFor _) fun _ => .perform .acknowledgeAddress fun _ => rfl

theorem isTraffic_sendByte (value : UInt8) : IsTraffic (sendByte value) :=
  .bind (isTraffic_writeData value) fun _ => isTraffic_waitFor _

theorem isTraffic_close : IsTraffic close :=
  .bind (fun bus => traffic_poll _ _ _ bus) fun _ => isTraffic_stop

theorem isTraffic_handshake (address : UInt8) : IsTraffic (handshake address) := by
  refine .bind (isTraffic_start address) fun _ => .forM _ fun step => ?_
  refine .bind (.forM _ isTraffic_sendByte) fun _ => ?_
  split
  case isTrue =>
    have pause (board : Board) :
        Exchange board [.delayMicros step.settleMicros] (board.delayMicros step.settleMicros) :=
      .single rfl
    exact .perform pause fun _ => rfl
  case isFalse => exact .pure ()

/-! ## The scan -/

theorem traffic_probe (address : UInt8) (bus : Bus) : Traffic bus (bus.probe address).2 := by
  have steps : IsTraffic (do start address; sendByte 0; stop : BusM Unit) :=
    .bind (isTraffic_start address) fun _ => .bind (isTraffic_sendByte 0) fun _ => isTraffic_stop
  have run := steps bus
  unfold probe EStateM.run
  split
  case h_1 next found => rw [found] at run; exact run
  case h_2 next absent => rw [absent] at run; exact run

theorem traffic_scan (addresses : List UInt8) (bus : Bus) :
    Traffic bus (bus.scan addresses).2 := by
  induction addresses generalizing bus with
  | nil => exact .refl bus
  | cons address rest ih =>
    have probed := traffic_probe address bus
    unfold scan
    split
    case isFalse => exact .refl bus
    case isTrue =>
      split
      case h_1 next found => rw [found] at probed; exact probed
      case h_2 next absent => rw [absent] at probed; exact probed.trans (ih next)

theorem isTraffic_detect (config : Config) : IsTraffic (detect config) := by
  intro bus
  have scanned := traffic_scan config.scanOrder bus
  unfold detect
  split
  case h_1 address next found => rw [found] at scanned; exact scanned
  case h_2 next absent => rw [absent] at scanned; exact scanned

end StatusDisplay.Bus
