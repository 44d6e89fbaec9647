import StatusDisplay.Bus.Basic
import StatusDisplay.Controller

/-!
# Looking for the display

Addresses are probed one after the other; the first that acknowledges wins. A bus that dies during
a probe ends the scan, since every later probe would run into the same wait.
-/

namespace StatusDisplay.Bus

/-- The first of `addresses` at which a peer acknowledges, as long as the bus is alive. -/
def scan (addresses : List UInt8) (bus : Bus) : Option UInt8 × Bus :=
  match addresses with
  | [] => (none, bus)
  | address :: rest =>
    if bus.alive then
      match bus.probe address with
      | (true, bus) => (some address, bus)
      | (false, bus) => scan rest bus
    else (none, bus)

/-- Scans one range. -/
def scanRange (range : AddressRange) (bus : Bus) : Option UInt8 × Bus := scan range.toList bus

/-- Looks for the display at every address of the configuration. -/
def detect (config : Config) : EStateM BringUpError Bus Controller := fun bus =>
  match bus.scan config.scanOrder with
  | (some address, bus) => .ok (.classify config address) bus
  | (none, bus) => .error (if bus.alive then .noDeviceFound else .bus .timeout) bus

@[simp] theorem scan_nil (bus : Bus) : bus.scan [] = (none, bus) := rfl

/-- On a dead bus nothing is probed. -/
theorem scan_of_dead {bus : Bus} (h : bus.alive = false) (addresses : List UInt8) :
    bus.scan addresses = (none, bus) := by
  cases addresses <;> simp [scan, h]

theorem detect_of_dead {bus : Bus} (h : bus.alive = false) (config : Config) :
    detect config bus = .error (.bus .timeout) bus := by
  simp [detect, scan_of_dead h, h]

end StatusDisplay.Bus
