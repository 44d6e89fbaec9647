import StatusDisplay.Proofs.Bus.Script

/-!
# How a transaction is closed

A bus that is free for the next start condition has been closed: the last byte was seen to leave,
and a stop condition went out. `Closes` says so of a list of calls, and a close that succeeds makes
just these calls. So does the end of a probe, and a scan that finds a display ends with a probe.
-/

namespace StatusDisplay

/-- Calls that do not let bus events through; letting them through opens a transaction. -/
def Call.opensNothing : Call → Bool
  | .setEventIrq on => !on
  | _ => true

/-- Calls that put neither a start condition nor a payload on the wire. -/
def Call.addsNothing : Call → Bool
  | .setEventIrq on => !on
  | .requestStart | .startTransfer _ => false
  | _ => true

theorem Call.opensNothing_of_addsNothing (call : Call) (h : call.addsNothing = true) :
    call.opensNothing = true := by
  cases call <;> first | rfl | exact h

theorem Call.opensNothing_of_isTraffic (call : Call) (traffic : call.isTraffic = true) :
    call.opensNothing = true := by
  cases call <;> first | rfl | cases traffic

theorem Call.addsNothing_of_isPoll (call : Call) (poll : call.isPoll = true) :
    call.addsNothing = true := by
  cases call <;> first | rfl | cases poll

namespace Bus

variable {address : UInt8} {bus next : Bus}

/-- The last byte was seen to leave, and a stop condition was requested and came out. -/
def Closes (calls : List Call) : Prop :=
  ∃ seen stop, calls = seen ++ stop ∧ Sees .byteTransferred seen ∧ Stops stop

theorem Sees.addsNothing {flags : Status} {calls : List Call} (h : Sees flags calls) :
    calls.all Call.addsNothing = true :=
  Call.all_mono h.all Call.addsNothing_of_isPoll

theorem addsNothing_of_busy (busy : Nat) :
    (Call.requestStop :: List.replicate busy (.stopPending true)).all Call.addsNothing = true := by
  rw [List.all_cons, List.all_replicate]
  exact ite_self true

theorem Stops.addsNothing {calls : List Call} (h : Stops calls) :
    calls.all Call.addsNothing = true := by
  obtain ⟨busy, rfl⟩ := h
  rw [← List.cons_append, List.all_append, addsNothing_of_busy]
  rfl

theorem Closes.addsNothing {calls : List Call} (h : Closes calls) :
    calls.all Call.addsNothing = true := by
  obtain ⟨seen, stop, rfl, sees, stops⟩ := h
  rw [List.all_append, sees.addsNothing, stops.addsNothing]
  rfl

/-- A close that fails has not put anything on the wire either. -/
theorem leads_close : Leads close Closes (·.all Call.addsNothing = true) := by
  have waits : Leads (fun bus => poll .byteTransferred false bus.board.clock bus)
      (Sees .byteTransferred) (·.all Call.isPoll = true) :=
    fun bus => result_poll .byteTransferred false bus.board.clock bus
  refine (waits.bind fun _ => leads_stop).mono ?_ ?_
  · exact fun calls closes => closes
  · rintro calls (polls | ⟨seen, stop, rfl, sees, busy, rfl⟩)
    · exact Call.all_mono polls Call.addsNothing_of_isPoll
    · rw [List.all_append, sees.addsNothing, addsNothing_of_busy]
      rfl

/-! ## Probes -/

/--
A probe that succeeds: its address goes out behind a start condition and is acknowledged, a zero
byte follows, and the transaction is closed.
-/
def Probes (address : UInt8) (calls : List Call) : Prop :=
  ∃ opening closing, calls = opening ++ closing ∧
    opening.filter Call.isAction =
      [.requestStart, .writeData (address <<< 1), .acknowledgeAddress, .writeData 0] ∧
    Closes closing

theorem leads_sendByte (value : UInt8) : Leads (sendByte value)
    (fun calls => ∃ seen, calls = .writeData value :: seen ∧ Sees .byteTransferred seen)
    (fun _ => True) := by
  intro bus
  have wrote := Exchange.writeData bus.board value
  exact (result_poll .byteTransferred true _ _).prepend wrote
    (fun seen sees => ⟨seen, rfl, sees⟩) fun _ _ => trivial

theorem leads_probe (address : UInt8) :
    Leads (do start address; sendByte 0; stop : BusM Unit) (Probes address) (fun _ => True) := by
  have steps := Leads.bind (follows_start address) fun _ =>
    Leads.bind (leads_sendByte 0) fun _ => leads_stop
  refine steps.mono ?_ fun _ _ => trivial
  rintro _ ⟨opening, _, rfl, script, _, stop, rfl, ⟨seen, rfl, sees⟩, stops⟩
  refine ⟨opening ++ [.writeData 0], seen ++ stop, by simp, ?_, seen, stop, rfl, sees, stops⟩
  rw [List.filter_append, script]
  rfl

theorem probes_of_probe (found : bus.probe address = (true, next)) :
    ∃ calls, Exchange bus.board calls next.board ∧ Probes address calls := by
  unfold probe EStateM.run at found
  split at found
  case h_1 after run =>
    cases found
    exact (leads_probe address).of_ok run
  case h_2 => cases found

/-- A scan that finds an address ends with the probe that found it. -/
theorem probes_of_scan {addresses : List UInt8} (found : bus.scan addresses = (some address, next)) :
    ∃ earlier probe, Exchange bus.board (earlier ++ probe) next.board ∧ Probes address probe := by
  induction addresses generalizing bus with
  | nil => cases found
  | cons first rest ih =>
    unfold scan at found
    split at found
    case isFalse => cases found
    case isTrue =>
      split at found
      case h_1 after probed =>
        cases found
        obtain ⟨probe, exchange, probes⟩ := probes_of_probe probed
        exact ⟨[], probe, exchange, probes⟩
      case h_2 after absent =>
        have failed := traffic_probe first bus
        rw [absent] at failed
        obtain ⟨calls, exchange, _⟩ := failed.makes
        obtain ⟨earlier, probe, exchange', probes⟩ := ih found
        refine ⟨calls ++ earlier, probe, ?_, probes⟩
        rw [List.append_assoc]
        exact exchange.append exchange'

theorem probes_of_detect {config : Config} {controller : Controller}
    (found : detect config bus = .ok controller next) :
    ∃ earlier probe, Exchange bus.board (earlier ++ probe) next.board ∧
      Probes controller.address probe := by
  unfold detect at found
  split at found
  case h_1 address after scanned =>
    cases found
    rw [Controller.address_classify]
    exact probes_of_scan scanned
  case h_2 => cases found

end Bus

end StatusDisplay
