import StatusDisplay.Proofs.Board.Present

/-!
# Calls that differ in what is transferred

The board does not look at the bytes of a transfer. So calls that differ in such bytes only get the same
answers everywhere else, and leave boards that are alike as they were.
-/

namespace StatusDisplay

namespace Call

/-- The call without the bytes of a transfer. -/
def sansBytes : Call → Call
  | startTransfer _ => startTransfer []
  | call => call

/-- Calls are the same if they are without the bytes of their transfers, and these are the same too. -/
theorem eq_of_sansBytes {calls calls' : List Call}
    (same : calls.map sansBytes = calls'.map sansBytes)
    (transfers : calls.filterMap transfer? = calls'.filterMap transfer?) : calls = calls' := by
  have none (call : Call) (other : ∀ bytes, call ≠ .startTransfer bytes) : call.transfer? = none := by
    cases call with
    | startTransfer bytes => exact absurd rfl (other bytes)
    | _ => rfl
  have kept (call : Call) (other : ∀ bytes, call ≠ .startTransfer bytes) : call.sansBytes = call := by
    cases call with
    | startTransfer bytes => exact absurd rfl (other bytes)
    | _ => rfl
  induction calls generalizing calls' with
  | nil => exact (List.map_eq_nil_iff.1 same.symm).symm
  | cons call calls ih =>
    cases calls' with
    | nil => cases same
    | cons call' calls' =>
      obtain ⟨first, rest⟩ := List.cons.inj same
      by_cases starts : ∃ bytes, call = .startTransfer bytes
      · obtain ⟨bytes, rfl⟩ := starts
        cases call' with
        | startTransfer bytes' =>
          obtain ⟨rfl, later⟩ := List.cons.inj transfers
          rw [ih rest later]
        | _ => cases first
      · have other (bytes : List UInt8) : call ≠ .startTransfer bytes := fun h => starts ⟨bytes, h⟩
        have other' (bytes : List UInt8) : call' ≠ .startTransfer bytes := by
          rintro rfl
          rw [kept call other] at first
          exact other [] first
        rw [kept call other, kept call' other'] at first
        rw [List.filterMap_cons_none (none call other), List.filterMap_cons_none (none call' other')]
          at transfers
        rw [first, ih rest transfers]

end Call

namespace Board

variable {first second first' second' first'' second'' : Board}

/-- Calls that are the same, but for the bytes of transfers, lead from either board on. -/
def Matched (first second first' second' : Board) : Prop :=
  ∃ calls calls', Exchange first calls first' ∧ Exchange second calls' second' ∧
    calls.map Call.sansBytes = calls'.map Call.sansBytes

theorem present_sansBytes (board : Board) (call : Call) :
    (board.perform call.sansBytes).present = (board.perform call).present := by
  cases call <;> rfl

end Board

open Board

/-- Matching calls leave boards that are alike as they were. -/
theorem Exchange.alike_of_matched {first second first' second' : Board} {calls calls' : List Call}
    (h : Exchange first calls first') (h' : Exchange second calls' second')
    (same : calls.map Call.sansBytes = calls'.map Call.sansBytes) (alike : first.Alike second) :
    first'.Alike second' := by
  induction h generalizing second calls' with
  | nil =>
    obtain rfl := List.map_eq_nil_iff.1 same.symm
    cases h' with
    | nil => exact alike
  | @cons board _ call _ _ _ ih =>
    cases h' with
    | nil => cases same
    | @cons _ _ call' _ _ later =>
      obtain ⟨one, rest⟩ := List.cons.inj same
      refine ih later rest ?_
      show (board.perform call).present = (second.perform call').present
      rw [← board.present_sansBytes, ← second.present_sansBytes, one]
      exact alike.perform _

namespace Board

variable {first second first' second' first'' second'' : Board}

theorem Together.matched (h : first.Together second first' second') :
    first.Matched second first' second' := by
  obtain ⟨calls, exchange, exchange'⟩ := h
  exact ⟨calls, calls, exchange, exchange', rfl⟩

namespace Matched

theorem trans (h : first.Matched second first' second')
    (h' : first'.Matched second' first'' second'') : first.Matched second first'' second'' := by
  obtain ⟨calls, calls', exchange, exchange', same⟩ := h
  obtain ⟨more, more', later, later', same'⟩ := h'
  refine ⟨calls ++ more, calls' ++ more', exchange.append later, exchange'.append later', ?_⟩
  rw [List.map_append, List.map_append, same, same']

theorem alike (h : first.Matched second first' second') (alike : first.Alike second) :
    first'.Alike second' := by
  obtain ⟨_, _, exchange, exchange', same⟩ := h
  exact exchange.alike_of_matched exchange' same alike

end Matched

end Board

end StatusDisplay
