import StatusDisplay.Proofs.Bus.Outcome

/-!
# What a scan finds

A probe of an address that no device has leaves the scene as it was, so a scan passes over it; the
first device ends the scan, one way or the other. On a bus that is stuck the first probe does, and on
one that holds its bytes the first device that acknowledges, since the bus is dead then.
-/

namespace StatusDisplay.Bus

variable {world : World} {address : UInt8} {addresses rest : List UInt8} {bytes : List UInt8}
  {starts : Nat} {bus : Bus}

/-- The address byte for writing to an address. -/
def addressByte (address : UInt8) : UInt8 := address <<< 1

section Probes

variable (quiet : world.statusWords = []) (on : bus.On (resting world bytes starts))
include quiet on

theorem probe_of_stuck (stuck : world.stuck = true) : ∃ next,
    bus.probe address = (false, next) ∧ next.alive = false ∧
      next.board.scene = resting world bytes (starts + 1) := by
  have steps : Fails (do start address; sendByte 0; stop : BusM Unit) (resting world bytes starts)
      .timeout (resting world bytes (starts + 1)) := (fails_start_of_stuck quiet stuck).bind
  obtain ⟨next, run, scene, alive⟩ := steps bus on
  refine ⟨next, ?_, ?_, scene⟩
  · rw [probe, EStateM.run, run]
  · exact Bool.eq_false_iff.2 fun living => BusError.noConfusion (alive.1 living)

variable (free : world.stuck = false)
include free

theorem probe_of_absent
    (absent : world.devices.contains (addressOf (address <<< 1)) = false) : ∃ next,
    bus.probe address = (false, next) ∧
      next.On (resting world (addressByte address :: bytes) (starts + 1)) := by
  have steps : Fails (do start address; sendByte 0; stop : BusM Unit) (resting world bytes starts)
      .fault (resting world (addressByte address :: bytes) (starts + 1)) :=
    (fails_start_of_absent quiet free absent).bind
  obtain ⟨next, run, scene, alive⟩ := steps bus on
  refine ⟨next, ?_, alive.2 rfl, scene⟩
  rw [probe, EStateM.run, run]

variable (device : world.devices.contains (addressOf (address <<< 1)) = true)
include device

/-- A device whose bytes are held acknowledges, but nothing more is seen of it. -/
theorem probe_of_held (held : world.holdBytes = true) : ∃ next,
    bus.probe address = (false, next) ∧ next.alive = false ∧
      next.board.scene.addressBytes = addressByte address :: bytes := by
  have steps : Fails (do start address; sendByte 0; stop : BusM Unit) (resting world bytes starts)
      .timeout (talking world (addressByte address :: bytes) (starts + 1)) :=
    (succeeds_start quiet free device).bind_fails fun _ =>
      (fails_sendByte quiet free held 0).bind
  obtain ⟨next, run, scene, alive⟩ := steps bus on
  refine ⟨next, ?_, ?_, congrArg Scene.addressBytes scene⟩
  · rw [probe, EStateM.run, run]
  · exact Bool.eq_false_iff.2 fun living => BusError.noConfusion (alive.1 living)

theorem probe_of_device (moving : world.holdBytes = false) (ready : world.stopBusy = 0) :
    ∃ next, bus.probe address = (true, next) ∧
      next.On (resting world (addressByte address :: bytes) (starts + 1)) := by
  have steps : Succeeds (do start address; sendByte 0; stop : BusM Unit)
      (resting world bytes starts)
      (resting world (addressByte address :: bytes) (starts + 1)) :=
    (succeeds_start quiet free device).bind fun _ =>
      (succeeds_sendByte quiet free moving 0).bind fun _ => succeeds_stop ready
  obtain ⟨_, next, run, on⟩ := steps bus on
  refine ⟨next, ?_, on⟩
  rw [probe, EStateM.run, run]

end Probes

/-! ## Scans -/

section Scans

variable (quiet : world.statusWords = []) (on : bus.On (resting world bytes starts))
include quiet on

theorem scan_of_stuck (stuck : world.stuck = true) : ∃ next,
    bus.scan (address :: rest) = (none, next) ∧ next.alive = false ∧
      next.board.scene = resting world bytes (starts + 1) := by
  obtain ⟨next, probed, dead, scene⟩ := probe_of_stuck quiet on stuck
  refine ⟨next, ?_, dead, scene⟩
  rw [scan, if_pos on.alive, probed]
  exact scan_of_dead dead rest

variable (free : world.stuck = false)
include free

/-- A scan passes over addresses that no device has, whatever comes after them. -/
theorem scan_of_absent
    (absent : ∀ address ∈ addresses,
      world.devices.contains (addressOf (address <<< 1)) = false) : ∃ (next : Bus) (starts' : Nat),
    (∀ rest, bus.scan (addresses ++ rest) = next.scan rest) ∧
      next.On (resting world ((addresses.map addressByte).reverse ++ bytes) starts') := by
  induction addresses generalizing bus bytes starts with
  | nil => exact ⟨bus, starts, fun _ => rfl, on⟩
  | cons first addresses ih =>
    obtain ⟨next, probed, on'⟩ :=
      probe_of_absent quiet on free (absent first List.mem_cons_self)
    obtain ⟨last, starts', scanned, on'⟩ :=
      ih on' fun address mem => absent address (List.mem_cons_of_mem first mem)
    refine ⟨last, starts', fun rest => ?_, ?_⟩
    · rw [List.cons_append, scan, if_pos on.alive, probed]
      exact scanned rest
    · rw [List.map_cons, List.reverse_cons, List.append_assoc]
      exact on'

variable (device : world.devices.contains (addressOf (address <<< 1)) = true)
include device

theorem scan_of_held (held : world.holdBytes = true) : ∃ next,
    bus.scan (address :: rest) = (none, next) ∧ next.alive = false ∧
      next.board.scene.addressBytes = addressByte address :: bytes := by
  obtain ⟨next, probed, dead, sent⟩ := probe_of_held quiet on free device held
  refine ⟨next, ?_, dead, sent⟩
  rw [scan, if_pos on.alive, probed]
  exact scan_of_dead dead rest

theorem scan_of_device (moving : world.holdBytes = false) (ready : world.stopBusy = 0) :
    ∃ next, bus.scan (address :: rest) = (some address, next) ∧
      next.On (resting world (addressByte address :: bytes) (starts + 1)) := by
  obtain ⟨next, probed, on'⟩ := probe_of_device quiet on free device moving ready
  refine ⟨next, ?_, on'⟩
  rw [scan, if_pos on.alive, probed]

end Scans

end StatusDisplay.Bus
