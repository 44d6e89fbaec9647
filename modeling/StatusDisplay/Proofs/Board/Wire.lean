import StatusDisplay.Proofs.Board.Exchange

/-!
# What calls put on the wire

Only a byte that is written right after a start condition goes out as an address. So the calls alone
bound what addresses are tried: they are among the first writes behind each request for a start
(`Exchange.addressBytes`), and the peers decide no more than which of them get out.
-/

namespace StatusDisplay

/-- Calls that neither send a byte nor bring about or undo a start condition. -/
def Call.sendsNoAddress : Call → Bool
  | .reset | .requestStart | .writeData _ => false
  | _ => true

/--
The bytes that calls write right after a start condition; `started` tells whether one is out
already.
-/
def firstWrites (started : Bool) : List Call → List UInt8
  | [] => []
  | .reset :: calls => firstWrites false calls
  | .requestStart :: calls => firstWrites true calls
  | .writeData byte :: calls => (if started then [byte] else []) ++ firstWrites false calls
  | _ :: calls => firstWrites started calls

theorem firstWrites_cons_of_sendsNoAddress {call : Call} (none : call.sendsNoAddress = true)
    (started : Bool) (calls : List Call) :
    firstWrites started (call :: calls) = firstWrites started calls := by
  cases call <;> first | rfl | cases none

/-- Calls that send no address may be left out. -/
theorem firstWrites_filter {p : Call → Bool} (started : Bool) (calls : List Call)
    (dropped : ∀ call, p call = false → call.sendsNoAddress = true) :
    firstWrites started (calls.filter p) = firstWrites started calls := by
  induction calls generalizing started with
  | nil => rfl
  | cons call calls ih =>
    cases keep : p call with
    | false =>
      rw [List.filter_cons_of_neg (by rw [keep]; decide),
        firstWrites_cons_of_sendsNoAddress (dropped call keep), ih]
    | true =>
      rw [List.filter_cons_of_pos keep]
      cases call <;> simp only [firstWrites, ih]

/-- What is written first in calls that were cut short is written first in all of them. -/
theorem firstWrites_of_cut {calls script : List Call} (started : Bool) (cut : calls <+: script) :
    firstWrites started calls <+: firstWrites started script := by
  obtain ⟨rest, rfl⟩ := cut
  induction calls generalizing started with
  | nil => exact List.nil_prefix
  | cons call calls ih =>
    cases call with
    | writeData byte => exact (List.prefix_append_right_inj _).2 (ih _)
    | _ => exact ih _

namespace Board

theorem started_perform (board : Board) {call : Call} (none : call.sendsNoAddress = true)
    (started : (board.perform call).master.phase = .started) : board.master.phase = .started := by
  cases call with
  | reset => cases none
  | requestStart => cases none
  | writeData => cases none
  | stopPending =>
    revert started
    show board.pollStop.master.phase = .started → _
    unfold pollStop
    split <;> exact id
  | setLineMode line => cases line <;> exact started
  | release line => cases line <;> exact started
  | pullLow line => cases line <;> exact started
  | sample line => cases line <;> exact started
  | acknowledgeAddress => cases started
  | requestStop => cases started
  | _ => exact started

theorem wire_perform (board : Board) {call : Call} (none : call.sendsNoAddress = true) :
    (board.perform call).wire = board.wire := by
  cases call with
  | reset => cases none
  | requestStart => cases none
  | writeData => cases none
  | stopPending =>
    show board.pollStop.wire = _
    unfold pollStop
    split <;> rfl
  | setLineMode line => cases line <;> rfl
  | release line => cases line <;> rfl
  | pullLow line => cases line <;> rfl
  | sample line => cases line <;> rfl
  | _ => rfl

theorem wire_requestStart (board : Board) : board.requestStart.wire = board.wire := by
  unfold requestStart
  split <;> rfl

/-- A byte is sent as an address after a start condition, and only then. -/
theorem addressBytes_writeData (board : Board) (byte : UInt8) :
    (board.writeData byte).wire.addressBytes =
      (if board.master.phase = .started then [byte] else []) ++ board.wire.addressBytes := by
  unfold writeData sendAddress
  split
  case h_1 started =>
    rw [if_pos started]
    dsimp only
    split <;> rfl
  case h_2 data => rw [if_neg (by rw [data]; decide)]; rfl
  case h_3 idle => rw [if_neg (by rw [idle]; decide)]; rfl
  case h_4 addressed => rw [if_neg (by rw [addressed]; decide)]; rfl

theorem phase_writeData (board : Board) (byte : UInt8) :
    (board.writeData byte).master.phase ≠ .started := by
  unfold writeData sendAddress
  split
  case h_1 =>
    dsimp only
    split <;> exact Phase.noConfusion
  case h_2 data => show board.master.phase ≠ _; rw [data]; exact Phase.noConfusion
  case h_3 idle => show board.master.phase ≠ _; rw [idle]; exact Phase.noConfusion
  case h_4 addressed => show board.master.phase ≠ _; rw [addressed]; exact Phase.noConfusion

end Board

/-- The address bytes that calls add are first writes, though not all of these need get out. -/
theorem Exchange.addressBytes {before after : Board} {calls : List Call}
    (h : Exchange before calls after) {started : Bool}
    (phase : before.master.phase = .started → started = true) :
    ∃ sent : List UInt8, sent.Sublist (firstWrites started calls) ∧
      after.wire.addressBytes = sent.reverse ++ before.wire.addressBytes := by
  induction h generalizing started with
  | nil => exact ⟨[], .slnil, rfl⟩
  | @cons board after call calls _ _ ih =>
    cases none : call.sendsNoAddress with
    | true =>
      obtain ⟨sent, sub, grown⟩ := ih fun now => phase (board.started_perform none now)
      refine ⟨sent, ?_, ?_⟩
      · rw [firstWrites_cons_of_sendsNoAddress none]
        exact sub
      · rw [grown, board.wire_perform none]
    | false =>
      cases call with
      | reset => exact @ih false Phase.noConfusion
      | requestStart =>
        obtain ⟨sent, sub, grown⟩ := ih fun _ => rfl
        have wire : (board.perform .requestStart).wire = board.wire := board.wire_requestStart
        rw [wire] at grown
        exact ⟨sent, sub, grown⟩
      | writeData byte =>
        obtain ⟨sent, sub, grown⟩ := @ih false
          fun now => absurd now (board.phase_writeData byte)
        have written : (board.perform (.writeData byte)).wire.addressBytes =
            (if board.master.phase = .started then [byte] else []) ++ board.wire.addressBytes :=
          board.addressBytes_writeData byte
        rw [written] at grown
        by_cases now : board.master.phase = .started
        · rw [if_pos now] at grown
          refine ⟨byte :: sent, ?_, ?_⟩
          · rw [firstWrites, phase now]
            exact sub.cons_cons byte
          · rw [grown, List.reverse_cons, List.append_assoc]
        · rw [if_neg now] at grown
          exact ⟨sent, sub.trans (List.sublist_append_right _ _), grown⟩
      | _ => cases none

end StatusDisplay
