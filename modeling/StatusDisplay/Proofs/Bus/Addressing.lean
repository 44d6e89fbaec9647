import StatusDisplay.Proofs.Board.Wire
import StatusDisplay.Proofs.Board.Wiring
import StatusDisplay.Proofs.Bus.Closing
import StatusDisplay.Proofs.Bus.Probing

/-!
# Which addresses the bus steps send

An address goes out from three places: a probe, the opening of a handshake, and the event
interrupt. `Board.Dials` says of any calls that the address bytes among them belong to given
addresses, whatever phase the bus master is in to begin with. It passes through sequencing, so a
whole scan dials no more than the addresses that it was given, although it sends zero bytes in
between.
-/

namespace StatusDisplay

/-! ## First writes of calls one after the other -/

/-- A start condition that is out already can only make one more byte an address. -/
theorem firstWrites_subset (started : Bool) (calls : List Call) :
    firstWrites started calls ⊆ firstWrites true calls := by
  cases started with
  | true => exact List.Subset.refl _
  | false =>
    induction calls with
    | nil => exact List.Subset.refl _
    | cons call calls ih =>
      cases call with
      | writeData byte => exact List.subset_cons_self byte _
      | reset => exact List.Subset.refl _
      | requestStart => exact List.Subset.refl _
      | _ => exact ih

theorem firstWrites_append_subset (started : Bool) (calls more : List Call) :
    firstWrites started (calls ++ more) ⊆ firstWrites started calls ++ firstWrites true more := by
  induction calls generalizing started with
  | nil => exact firstWrites_subset started more
  | cons call calls ih =>
    cases call with
    | writeData byte =>
      rw [List.cons_append, firstWrites, firstWrites, List.append_assoc]
      exact List.append_subset.2
        ⟨List.subset_append_left _ _, List.Subset.trans (ih false) (List.subset_append_right _ _)⟩
    | _ => exact ih _

/-- Calls that write no byte. -/
def Call.writesNothing : Call → Bool
  | .writeData _ => false
  | _ => true

theorem Call.writesNothing_of_isWiring (call : Call) (wiring : call.isWiring = true) :
    call.writesNothing = true := by
  cases call <;> first | rfl | cases wiring

theorem firstWrites_of_writesNothing {calls : List Call}
    (none : calls.all Call.writesNothing = true) (started : Bool) :
    firstWrites started calls = [] := by
  induction calls generalizing started with
  | nil => rfl
  | cons call calls ih =>
    rw [List.all_cons, Bool.and_eq_true] at none
    cases call with
    | writeData => cases none.1
    | _ => exact ih none.2 _

/-- What traffic writes first, its actions do. -/
theorem firstWrites_actions {calls : List Call} (traffic : calls.all Call.isTraffic = true)
    (started : Bool) :
    firstWrites started (calls.filter Call.isAction) = firstWrites started calls := by
  let kept (call : Call) : Bool := call.isAction || !call.isTraffic
  have same : calls.filter Call.isAction = calls.filter kept := by
    apply List.filter_congr
    intro call mem
    simp [kept, List.all_eq_true.1 traffic call mem]
  rw [same]
  refine firstWrites_filter started calls fun call dropped => ?_
  cases call <;> first | rfl | cases dropped

/-! ## Dialling -/

/-- Nothing of an address of seven bits is lost, and the lowest bit says that bytes are written. -/
theorem Bus.toNat_addressByte {address : UInt8} (short : address ≤ AddressRange.maxAddress) :
    (addressByte address).toNat = 2 * address.toNat := by
  have bound : address.toNat ≤ 127 := UInt8.le_iff_toNat_le.1 short
  rw [addressByte, UInt8.toNat_shiftLeft, Nat.shiftLeft_eq]
  show address.toNat * 2 ^ 1 % 2 ^ 8 = _
  omega

/-- From the first board to the second, what is sent as an address is one of `addresses`. -/
def Board.Dials (addresses : List UInt8) (before after : Board) : Prop :=
  ∃ calls, Exchange before calls after ∧ firstWrites true calls ⊆ addresses.map Bus.addressByte

namespace Board.Dials

variable {first second third : Board} {addresses more : List UInt8}

theorem trans (h : first.Dials addresses second) (h' : second.Dials addresses third) :
    first.Dials addresses third := by
  obtain ⟨calls, exchange, dialled⟩ := h
  obtain ⟨later, exchange', dialled'⟩ := h'
  refine ⟨calls ++ later, exchange.append exchange', ?_⟩
  have both := List.append_subset.2 ⟨dialled, dialled'⟩
  exact List.Subset.trans (firstWrites_append_subset _ _ _) both

theorem mono (h : first.Dials addresses second) (le : addresses ⊆ more) :
    first.Dials more second := by
  obtain ⟨calls, exchange, dialled⟩ := h
  exact ⟨calls, exchange, List.Subset.trans dialled (List.map_subset _ le)⟩

/-- Calls that write nothing dial nothing. -/
theorem of_makes (h : first.Makes Call.writesNothing second) : first.Dials addresses second := by
  obtain ⟨calls, exchange, none⟩ := h
  refine ⟨calls, exchange, ?_⟩
  rw [firstWrites_of_writesNothing none]
  exact List.nil_subset _

theorem of_exchange {calls : List Call} (exchange : Exchange first calls second)
    (none : calls.all Call.writesNothing = true) : first.Dials addresses second :=
  of_makes (.of_exchange exchange none)

/-- The address bytes that the board sees are those of the addresses. -/
theorem addressBytes (h : first.Dials addresses second) :
    ∃ sent : List UInt8, sent ⊆ addresses.map Bus.addressByte ∧
      second.wire.addressBytes = sent ++ first.wire.addressBytes := by
  obtain ⟨calls, exchange, dialled⟩ := h
  obtain ⟨sent, sub, grown⟩ := exchange.addressBytes fun _ => rfl
  exact ⟨sent.reverse, List.reverse_subset.2 (List.Subset.trans sub.subset dialled), grown⟩

end Board.Dials

namespace Bus

/-! ## Steps with a script -/

/-- Steps that follow a script dial what the script has first behind its start conditions. -/
theorem Follows.dials {α : Type} {steps : BusM α} {script : List Call} {addresses : List UInt8}
    (h : Follows steps script) (traffic : IsTraffic steps)
    (own : firstWrites true script ⊆ addresses.map Bus.addressByte) (bus : Bus) :
    bus.board.Dials addresses (after (steps bus)).board := by
  have cut {calls : List Call} (all : calls.all Call.isTraffic = true)
      (actions : calls.filter Call.isAction <+: script) :
      firstWrites true calls ⊆ addresses.map Bus.addressByte := by
    rw [← firstWrites_actions all]
    exact List.Subset.trans (firstWrites_of_cut true actions).subset own
  cases run : steps bus with
  | ok value next =>
    obtain ⟨calls, exchange, all, actions⟩ := (h.traffic traffic).of_ok run
    exact ⟨calls, exchange, cut all (actions ▸ List.prefix_rfl)⟩
  | error error next =>
    obtain ⟨calls, exchange, all, actions⟩ := (h.traffic traffic).of_error run
    exact ⟨calls, exchange, cut all actions⟩

theorem follows_stop : Follows stop [.requestStop] := by
  have polls (busy : Nat) :
      (List.replicate busy (Call.stopPending true)).filter Call.isAction = [] :=
    List.filter_replicate_of_neg Bool.false_ne_true
  refine leads_stop.mono ?_ ?_
  · rintro _ ⟨busy, rfl⟩
    rw [List.filter_cons_of_pos rfl, List.filter_append, polls]
    rfl
  · rintro _ ⟨busy, rfl⟩
    have script : (.requestStop :: List.replicate busy (Call.stopPending true)).filter
        Call.isAction = [.requestStop] := by
      rw [List.filter_cons_of_pos rfl, polls]
    exact script ▸ List.prefix_rfl

theorem follows_close : Follows close [.requestStop] := by
  have waits : Follows (fun bus => poll .byteTransferred false bus.board.clock bus) [] := by
    intro bus
    refine (result_poll .byteTransferred false bus.board.clock bus).prepend (.nil _) ?_ ?_
    · exact fun calls sees => filter_isAction_of_polls sees.all
    · exact fun calls polls => List.prefix_nil.2 (filter_isAction_of_polls polls)
  exact waits.bind fun _ => follows_stop

/-- Closing a transaction dials nothing. -/
theorem dials_close (addresses : List UInt8) (bus : Bus) :
    bus.board.Dials addresses (after (close bus)).board :=
  follows_close.dials isTraffic_close (List.nil_subset _) bus

/-- A handshake dials its own address; its other bytes come behind that. -/
theorem dials_handshake (address : UInt8) (bus : Bus) :
    bus.board.Dials [address] (after (handshake address bus)).board :=
  (follows_handshake address).dials (isTraffic_handshake address) (List.Subset.refl _) bus

/-! ## The scan -/

/-- The actions of a probe. -/
def probeScript (address : UInt8) : List Call :=
  [.requestStart, .writeData (address <<< 1), .acknowledgeAddress, .writeData 0, .requestStop]

theorem follows_attempt (address : UInt8) :
    Follows (do start address; sendByte 0; stop : BusM Unit) (probeScript address) :=
  (follows_start address).bind fun _ => (follows_sendByte 0).bind fun _ => follows_stop

/-- A probe dials its own address; the zero byte comes behind that. -/
theorem dials_probe (address : UInt8) (bus : Bus) :
    bus.board.Dials [address] (bus.probe address).2.board := by
  have traffic : IsTraffic (do start address; sendByte 0; stop : BusM Unit) :=
    .bind (isTraffic_start address) fun _ => .bind (isTraffic_sendByte 0) fun _ => isTraffic_stop
  have own : firstWrites true (probeScript address) ⊆ [address].map addressByte :=
    List.Subset.refl _
  have run := (follows_attempt address).dials traffic own bus
  unfold probe EStateM.run
  split
  case h_1 next found => rw [found] at run; exact run
  case h_2 next absent => rw [absent] at run; exact run

/-- A scan dials no more than the addresses that it was given. -/
theorem dials_scan (addresses : List UInt8) (bus : Bus) :
    bus.board.Dials addresses (bus.scan addresses).2.board := by
  induction addresses generalizing bus with
  | nil => exact .of_exchange (.nil bus.board) rfl
  | cons address rest ih =>
    have probed : bus.board.Dials (address :: rest) (bus.probe address).2.board :=
      (dials_probe address bus).mono (List.cons_subset_cons address (List.nil_subset rest))
    unfold scan
    split
    case isFalse => exact .of_exchange (.nil bus.board) rfl
    case isTrue =>
      split
      case h_1 next found => rw [found] at probed; exact probed
      case h_2 next absent =>
        rw [absent] at probed
        exact probed.trans ((ih next).mono (List.subset_cons_self address rest))

theorem dials_detect (config : Config) (bus : Bus) :
    bus.board.Dials config.scanOrder (after (detect config bus)).board := by
  have scanned := dials_scan config.scanOrder bus
  unfold detect
  split
  case h_1 address next found => rw [found] at scanned; exact scanned
  case h_2 next absent => rw [absent] at scanned; exact scanned

/-! ## The event interrupt -/

/-- The event interrupt writes one byte at most, which is its address. -/
theorem dials_onEvent (address : UInt8) (bus : Bus) :
    bus.board.Dials [address] (bus.onEvent address).board := by
  have look : bus.board.Dials [address] bus.board.readStatus :=
    .of_exchange (.readStatus bus.board) rfl
  have send (board : Board) (sent : Bool) : board.Dials [address]
      (if sent then board.writeData (address <<< 1) else board) := by
    cases sent with
    | true => exact ⟨_, .writeData board _, List.Subset.refl _⟩
    | false => exact .of_exchange (.nil board) rfl
  have acknowledge (board : Board) (acked : Bool) : board.Dials [address]
      (if acked then board.acknowledgeAddress.setEventIrq false else board) := by
    have exchange : Exchange board [.acknowledgeAddress, .setEventIrq false]
        (board.acknowledgeAddress.setEventIrq false) := .commands _ _ rfl
    cases acked with
    | true => exact .of_exchange exchange rfl
    | false => exact .of_exchange (.nil board) rfl
  exact (look.trans (send _ _)).trans (acknowledge _ _)

end Bus

end StatusDisplay
