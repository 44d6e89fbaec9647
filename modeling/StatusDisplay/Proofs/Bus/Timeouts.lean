import StatusDisplay.Proofs.Bus.Waits

/-!
# A bus that runs out of time

A probe tells nobody why it failed, so a scan goes by the state of the bus: it ends with the first wait
that runs out of time (`endsLate_scan`), and on a bus that is dead already it ends before it begins.
Whatever is asked of the bus, as long as it is not revived it is dead exactly if it was or if a wait has
run out of time since (`Operation.alive_runAll`).
-/

namespace StatusDisplay.Bus

/-! ## The scan -/

/-- How the waits of a scan end. -/
def scanOutcomes : List UInt8 → Bus → List (Option BusError)
  | [], _ => []
  | address :: rest, bus =>
    if bus.alive then
      outcomes (probing address) bus ++
        match bus.probe address with
        | (true, _) => []
        | (false, next) => scanOutcomes rest next
    else []

theorem scanOutcomes_of_dead {bus : Bus} (dead : bus.alive = false) (addresses : List UInt8) :
    scanOutcomes addresses bus = [] := by
  cases addresses with
  | nil => rfl
  | cons => rw [scanOutcomes, dead]; rfl

theorem alive_probe (address : UInt8) (bus : Bus) : (bus.probe address).2.alive = false ↔
    bus.alive = false ∨ some .timeout ∈ outcomes (probing address) bus := by
  rw [after_probe]
  exact alive_transact _ bus

/-- A scan leaves a bus dead that was dead, or on which a wait of one of its probes ran out of time. -/
theorem alive_scan (addresses : List UInt8) (bus : Bus) : (bus.scan addresses).2.alive = false ↔
    bus.alive = false ∨ some .timeout ∈ scanOutcomes addresses bus := by
  induction addresses generalizing bus with
  | nil => exact (or_iff_left List.not_mem_nil).symm
  | cons address rest ih =>
    cases living : bus.alive with
    | false => simp [scan_of_dead living, living]
    | true =>
      have probed := alive_probe address bus
      rw [scan, scanOutcomes, if_pos living, if_pos living, List.mem_append]
      cases run : bus.probe address with
      | mk found next =>
        rw [run, living] at probed
        cases found with
        | true => simpa using probed
        | false => simp only [ih next, probed, or_assoc]

/-- At most one wait of a scan runs out of time. -/
theorem count_scanOutcomes_le (addresses : List UInt8) (bus : Bus) :
    (scanOutcomes addresses bus).count (some .timeout) ≤ 1 := by
  induction addresses generalizing bus with
  | nil => exact Nat.zero_le 1
  | cons address rest ih =>
    rw [scanOutcomes]
    split
    case isFalse => exact Nat.zero_le 1
    case isTrue =>
      have probed := alive_probe address bus
      have first := count_outcomes_le (probing address) bus
      rw [List.count_append]
      cases run : bus.probe address with
      | mk found next =>
        rw [run] at probed
        cases found with
        | true => exact first
        | false =>
          -- A probe that ran out of time ends the scan, and one that did not adds nothing.
          by_cases late : some .timeout ∈ outcomes (probing address) bus
          · have dead : next.alive = false := probed.2 (.inr late)
            simpa only [scanOutcomes_of_dead dead, List.count_nil, Nat.add_zero] using first
          · rw [List.count_eq_zero_of_not_mem late, Nat.zero_add]
            exact ih next

/-- A scan that finds an address leaves the bus alive. -/
theorem alive_of_scan {addresses : List UInt8} {address : UInt8} {bus next : Bus}
    (found : bus.scan addresses = (some address, next)) : next.alive = true := by
  induction addresses generalizing bus with
  | nil => cases found
  | cons first rest ih =>
    rw [scan] at found
    split at found
    case isFalse => cases found
    case isTrue living =>
      split at found
      case h_1 answers =>
        cases found
        exact (alive_of_probe answers).trans living
      case h_2 => exact ih found

/-- A scan that finds the bus alive and leaves it dead has waited in vain. -/
theorem endsLate_scan (addresses : List UInt8) {bus : Bus} (living : bus.alive = true)
    (died : (bus.scan addresses).2.alive = false) : EndsLate bus (bus.scan addresses).2 := by
  induction addresses generalizing bus with
  | nil =>
    have alive : bus.alive = false := died
    exact absurd (alive.symm.trans living) Bool.noConfusion
  | cons address rest ih =>
    have traffic := (traffic_probe address bus).makes
    have late := endsLate_probe address living
    rw [scan, if_pos living] at died ⊢
    cases run : bus.probe address with
    | mk found next =>
      rw [run] at traffic late died
      cases found with
      | true => exact late died
      | false =>
        cases alive : next.alive with
        | false =>
          -- The rest of the scan leaves the bus as it is.
          dsimp only
          rw [scan_of_dead alive]
          exact late alive
        | true => exact (ih alive died).prepend traffic (alive.trans living.symm)

/-- How a search for the display ends tells whether the bus is alive. -/
theorem detect_cases (config : Config) (bus : Bus) :
    (∃ controller next, detect config bus = .ok controller next ∧ next.alive = true) ∨
    (∃ next, detect config bus = .error .noDeviceFound next ∧ next.alive = true) ∨
    (∃ next, detect config bus = .error (.bus .timeout) next ∧ next.alive = false) := by
  unfold detect
  cases run : bus.scan config.scanOrder with
  | mk found next =>
    cases found with
    | some address => exact .inl ⟨_, next, rfl, alive_of_scan run⟩
    | none =>
      cases alive : next.alive with
      | true => exact .inr (.inl ⟨next, by simp only [alive]; rfl, alive⟩)
      | false => exact .inr (.inr ⟨next, by simp only [alive]; rfl, alive⟩)

theorem after_detect (config : Config) (bus : Bus) :
    after (detect config bus) = (bus.scan config.scanOrder).2 := by
  unfold detect
  split
  case h_1 run => rw [run]; rfl
  case h_2 run => rw [run]; rfl

/-! ## Any sequence of operations -/

/-- What can be asked of the bus, other than to revive it. -/
inductive Operation where
  /-- The bus master is used directly, or something happens to the board from outside. -/
  | direct (f : Board → Board)
  | wait (wait : Wait)
  | start (address : UInt8)
  | sendByte (value : UInt8)
  | sendStrobe (value : UInt8)
  | probe (address : UInt8)
  | handshake (address : UInt8)
  | openAsync
  | onEvent (address : UInt8)
  | scan (range : AddressRange)
  | detect (config : Config)

namespace Operation

/-- The bus that an operation leaves, whether or not it failed. -/
def run : Operation → Bus → Bus
  | direct f, bus => bus.modifyBoard f
  | wait awaited, bus => after (awaited.run bus)
  | start address, bus => after (Bus.start address bus)
  | sendByte value, bus => after (Bus.sendByte value bus)
  | sendStrobe value, bus => after (Bus.sendStrobe value bus)
  | probe address, bus => (bus.probe address).2
  | handshake address, bus => after (Bus.handshake address bus)
  | openAsync, bus => bus.openAsync
  | onEvent address, bus => bus.onEvent address
  | scan range, bus => (bus.scanRange range).2
  | detect config, bus => after (Bus.detect config bus)

/-- How the waits of an operation end. -/
def outcomes : Operation → Bus → List (Option BusError)
  | direct _, _ | openAsync, _ | onEvent _, _ => []
  | wait awaited, bus => Bus.outcomes [.wait awaited] bus
  | start address, bus => Bus.outcomes (opening address) bus
  | sendByte value, bus => Bus.outcomes (sending value) bus
  | sendStrobe value, bus => Bus.outcomes (strobing value) bus
  | probe address, bus => Bus.outcomes (probing address) bus
  | handshake address, bus => Bus.outcomes (shaking address) bus
  | scan range, bus => scanOutcomes range.toList bus
  | detect config, bus => scanOutcomes config.scanOrder bus

theorem alive_run (operation : Operation) (bus : Bus) : (operation.run bus).alive = false ↔
    bus.alive = false ∨ some .timeout ∈ operation.outcomes bus := by
  cases operation with
  | direct => exact (or_iff_left List.not_mem_nil).symm
  | openAsync => exact (or_iff_left List.not_mem_nil).symm
  | onEvent => exact (or_iff_left List.not_mem_nil).symm
  | wait wait =>
    rw [run, ← show transact [.wait wait] = wait.run from transact_single _]
    exact alive_transact _ bus
  | start => rw [run, start_eq]; exact alive_transact _ bus
  | sendByte => rw [run, sendByte_eq]; exact alive_transact _ bus
  | sendStrobe => rw [run, sendStrobe_eq]; exact alive_transact _ bus
  | probe => exact alive_probe _ bus
  | handshake => exact alive_handshake _ bus
  | scan => exact alive_scan _ bus
  | detect config =>
    rw [run, after_detect]
    exact alive_scan _ bus

/-- The bus after operations, one after the other. -/
def runAll (operations : List Operation) (bus : Bus) : Bus :=
  operations.foldl (fun bus operation => operation.run bus) bus

/-- How all waits of operations end, one operation after the other. -/
def allOutcomes : List Operation → Bus → List (Option BusError)
  | [], _ => []
  | operation :: rest, bus => operation.outcomes bus ++ allOutcomes rest (operation.run bus)

/-- Without a revival the bus is dead exactly if it was dead or a wait has run out of time. -/
theorem alive_runAll (operations : List Operation) (bus : Bus) :
    (runAll operations bus).alive = false ↔
      bus.alive = false ∨ some .timeout ∈ allOutcomes operations bus := by
  induction operations generalizing bus with
  | nil => exact (or_iff_left List.not_mem_nil).symm
  | cons operation rest ih =>
    show (runAll rest (operation.run bus)).alive = false ↔ _
    rw [ih, operation.alive_run, allOutcomes, List.mem_append, or_assoc]

end Operation

end StatusDisplay.Bus
