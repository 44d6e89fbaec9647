import StatusDisplay.AddressRange
import StatusDisplay.Glyph.Basic
import StatusDisplay.Oled.Stream

/-!
# Configuration

Where to look for the display, how long to wait for the bus, and what to draw with. A
configuration is valid when both ranges are, the panel's address is one that the scan visits, and
no timeout is zero.
-/

namespace StatusDisplay

/-- The settings of one display driver. -/
structure Config where
  /-- Addresses that are searched first. -/
  lcdRange : AddressRange := .lcd
  /-- Addresses that are searched next. -/
  oledRange : AddressRange := .oled
  /-- The one address at which a device is taken for a bitmap panel. -/
  oledAddress : UInt8 := 0x3c
  busTimeoutMillis : Nat := 10
  watchdogTimeoutMillis : Nat := 200
  /-- The priority that the driver's interrupts share. -/
  irqPriority : UInt8 := 4
  font : Glyph.Font := .wide
  panel : Oled.Panel := .rows32
  deriving DecidableEq, Repr

instance : Inhabited Config := ⟨{}⟩

/-- Why a configuration is refused. -/
inductive ConfigError where
  /-- A range is empty or leaves the seven-bit space. -/
  | invalidRange
  /-- The panel's address lies in neither range. -/
  | oledAddressNotProbed
  | zeroTimeout
  deriving DecidableEq, Repr

namespace Config

/-- Every address of the scan in its order. -/
def scanOrder (config : Config) : List UInt8 :=
  config.lcdRange.toList ++ config.oledRange.toList

/-- The longest wait for the bus, in microseconds. -/
def busTimeout (config : Config) : Nat := config.busTimeoutMillis * 1000

/-- The longest time that a transfer may take, in microseconds. -/
def watchdogTimeout (config : Config) : Nat := config.watchdogTimeoutMillis * 1000

/--
Accepts a valid configuration; of several faults the first in the order of `ConfigError` is told.
-/
def validate (config : Config) : Except ConfigError Unit := do
  unless config.lcdRange.isValid && config.oledRange.isValid do
    throw .invalidRange
  unless config.lcdRange.contains config.oledAddress ||
      config.oledRange.contains config.oledAddress do
    throw .oledAddressNotProbed
  if config.busTimeoutMillis = 0 ∨ config.watchdogTimeoutMillis = 0 then
    throw .zeroTimeout

theorem mem_scanOrder {config : Config} {address : UInt8} :
    address ∈ config.scanOrder ↔
      config.lcdRange.contains address = true ∨ config.oledRange.contains address = true := by
  rw [scanOrder, List.mem_append, AddressRange.mem_toList, AddressRange.mem_toList]

/-- What a valid configuration has to have. -/
theorem validate_eq_ok_iff {config : Config} : config.validate = .ok () ↔
    (config.lcdRange.isValid = true ∧ config.oledRange.isValid = true) ∧
      config.oledAddress ∈ config.scanOrder ∧
      config.busTimeoutMillis ≠ 0 ∧ config.watchdogTimeoutMillis ≠ 0 := by
  rw [mem_scanOrder, ← Bool.or_eq_true, ← Bool.and_eq_true, ← not_or]
  unfold validate
  cases config.lcdRange.isValid && config.oledRange.isValid with
  | false => exact ⟨nofun, nofun⟩
  | true =>
    cases config.lcdRange.contains config.oledAddress ||
        config.oledRange.contains config.oledAddress with
    | false => exact ⟨nofun, nofun⟩
    | true =>
      by_cases zero : config.busTimeoutMillis = 0 ∨ config.watchdogTimeoutMillis = 0
      · simp [zero]
      · simp [zero, pure, Except.pure]

example : validate {} = .ok () := rfl

end Config

end StatusDisplay
