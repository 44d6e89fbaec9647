import StatusDisplay.Proofs.Bus.Probing

/-!
# What a configuration lets be found

The search tries the addresses of the configuration, and it takes the first device that it comes to for
the display. A valid configuration names addresses of seven bits only; such an address is what its
address byte names. On a board with no faults the search therefore fails only if there is no device at
any of these addresses. The kind of the display is told from its address: a panel can be found if the
panel's address is among those that are tried, and this is what a configuration is checked for
(`validate_iff_detectable`).
-/

namespace StatusDisplay

/-- An address of seven bits is the one that its address byte names. -/
theorem addressOf_shiftLeft {address : UInt8} (short : address ≤ AddressRange.maxAddress) :
    addressOf (address <<< 1) = address := by
  have bound : address.toNat ≤ 127 := UInt8.le_iff_toNat_le.1 short
  apply UInt8.toNat_inj.1
  rw [addressOf, UInt8.toNat_shiftRight, UInt8.toNat_shiftLeft]
  simp only [Nat.shiftLeft_eq, Nat.shiftRight_eq_div_pow]
  show address.toNat * 2 ^ 1 % 2 ^ 8 / 2 ^ 1 = _
  omega

namespace Config

theorem le_maxAddress_of_valid {config : Config} {address : UInt8}
    (valid : config.validate = .ok ()) (mem : address ∈ config.scanOrder) :
    address ≤ AddressRange.maxAddress := by
  obtain ⟨⟨lcd, oled⟩, _⟩ := validate_eq_ok_iff.1 valid
  have inside (range : AddressRange) (valid : range.isValid = true)
      (mem : range.contains address = true) : address ≤ AddressRange.maxAddress := by
    rw [AddressRange.isValid, Bool.and_eq_true, decide_eq_true_iff, decide_eq_true_iff] at valid
    have upper := (AddressRange.contains_iff.1 mem).2
    exact UInt8.le_iff_toNat_le.2 (Nat.le_trans upper (UInt8.le_iff_toNat_le.1 valid.2))
  rcases mem_scanOrder.1 mem with mem | mem
  · exact inside _ lcd mem
  · exact inside _ oled mem

theorem short_of_valid {config : Config} (valid : config.validate = .ok ()) :
    ∀ address ∈ config.scanOrder, addressOf (address <<< 1) = address :=
  fun _ mem => addressOf_shiftLeft (le_maxAddress_of_valid valid mem)

theorem not_mem_of_not_probed {config : Config}
    (refused : config.validate = .error .oledAddressNotProbed) :
    config.oledAddress ∉ config.scanOrder := by
  intro mem
  have named := Bool.or_eq_true_iff.2 (mem_scanOrder.1 mem)
  revert refused
  unfold validate
  rw [named]
  cases config.lcdRange.isValid && config.oledRange.isValid with
  | false => exact nofun
  | true =>
    by_cases zero : config.busTimeoutMillis = 0 ∨ config.watchdogTimeoutMillis = 0
    · rw [if_pos zero]
      exact nofun
    · rw [if_neg zero]
      exact nofun

/-! ## The first device -/

/-- The first address of the scan at which there is a device. -/
def firstDevice? (config : Config) (world : World) : Option UInt8 :=
  config.scanOrder.find? (world.devices.contains ·)

/-- The addresses that a scan gets to: all up to the first device, or all there are. -/
def probed (config : Config) (world : World) : List UInt8 :=
  config.scanOrder.takeWhile (fun address => !world.devices.contains address) ++
    (config.firstDevice? world).toList

variable {config : Config} {world : World} {address : UInt8}

/-- The first device of a scan, with what the scan passes over before it. -/
theorem exists_of_firstDevice? (found : config.firstDevice? world = some address) :
    ∃ before rest, config.scanOrder = before ++ address :: rest ∧
      world.devices.contains address = true ∧
      (∀ other ∈ before, world.devices.contains other = false) ∧
      config.probed world = before ++ [address] := by
  obtain ⟨device, before, rest, split, passed⟩ := List.find?_eq_some_iff_append.1 found
  have absent : ∀ other ∈ before, (!world.devices.contains other) = true := passed
  refine ⟨before, rest, split, device, fun other mem => by simpa using absent other mem, ?_⟩
  rw [probed, found, split, List.takeWhile_append_of_pos absent,
    List.takeWhile_cons_of_neg (by rw [device]; decide), List.append_nil]
  rfl

theorem mem_of_firstDevice? (found : config.firstDevice? world = some address) :
    address ∈ world.devices :=
  List.contains_iff_mem.1 (List.find?_some found)

/-- The first device of the scan is there behind its address byte. -/
theorem contains_of_firstDevice? (found : config.firstDevice? world = some address)
    (short : ∀ other ∈ config.scanOrder, addressOf (other <<< 1) = other) :
    world.devices.contains (addressOf (address <<< 1)) = true := by
  obtain ⟨_, _, order, device, _⟩ := exists_of_firstDevice? found
  have mem : address ∈ config.scanOrder := by
    rw [order]
    exact List.mem_append_right _ List.mem_cons_self
  rw [short address mem]
  exact device

theorem exists_firstDevice?_iff : (∃ address, config.firstDevice? world = some address) ↔
    ∃ device ∈ world.devices, config.lcdRange.contains device = true ∨
      config.oledRange.contains device = true := by
  rw [← Option.isSome_iff_exists, firstDevice?, List.find?_isSome]
  constructor
  · rintro ⟨address, mem, device⟩
    exact ⟨address, List.contains_iff_mem.1 device, mem_scanOrder.1 mem⟩
  · rintro ⟨device, mem, named⟩
    exact ⟨device, mem_scanOrder.2 named, List.contains_iff_mem.2 mem⟩

theorem probed_of_none (nowhere : config.firstDevice? world = none) :
    (∀ address ∈ config.scanOrder, world.devices.contains address = false) ∧
      config.probed world = config.scanOrder := by
  have absent : ∀ address ∈ config.scanOrder, world.devices.contains address = false := by
    intro address mem
    simpa using List.find?_eq_none.1 nowhere address mem
  have pass : ∀ address ∈ config.scanOrder, (!world.devices.contains address) = true := by
    intro address mem
    rw [absent address mem]
    rfl
  have whole : (config.scanOrder ++ []).takeWhile (fun address => !world.devices.contains address) =
      config.scanOrder ++ [] := List.takeWhile_append_of_pos pass
  rw [List.append_nil] at whole
  refine ⟨absent, ?_⟩
  rw [probed, nowhere, Option.toList_none, List.append_nil, whole]

/-- The scan gets to no address that it was not given. -/
theorem mem_scanOrder_of_probed (mem : address ∈ config.probed world) :
    address ∈ config.scanOrder := by
  obtain passed | last := List.mem_append.1 mem
  · exact (List.takeWhile_sublist _).subset passed
  · exact List.mem_of_find?_eq_some (Option.mem_toList.1 last)

end Config

/-! ## What is told of it -/

namespace Bus

/-- A scan finds an address that it was given. -/
theorem mem_of_scan {addresses : List UInt8} {address : UInt8} {bus next : Bus}
    (found : bus.scan addresses = (some address, next)) : address ∈ addresses := by
  induction addresses generalizing bus with
  | nil => cases found
  | cons first rest ih =>
    unfold scan at found
    split at found
    case isFalse => cases found
    case isTrue =>
      split at found
      case h_1 =>
        cases found
        exact List.mem_cons_self
      case h_2 => exact List.mem_cons_of_mem first (ih found)

end Bus

/-- A controller that the configuration leads to: of the right kind, and at an address it names. -/
structure Config.Names (config : Config) (controller : Controller) : Prop where
  kind : controller = .classify config controller.address
  address : controller.address ∈ config.scanOrder

theorem Bus.names_of_detect {config : Config} {controller : Controller} {bus next : Bus}
    (found : Bus.detect config bus = .ok controller next) : config.Names controller := by
  unfold detect at found
  split at found
  case h_1 address after scanned =>
    cases found
    refine ⟨?_, ?_⟩
    · rw [Controller.address_classify]
    · rw [Controller.address_classify]
      exact mem_of_scan scanned
  case h_2 => cases found

/-- A panel is found at the panel's address only. -/
theorem Bus.mem_scanOrder_of_bitmap {config : Config} {address : UInt8} {bus next : Bus}
    (found : Bus.detect config bus = .ok (.bitmap address) next) :
    config.oledAddress ∈ config.scanOrder := by
  obtain ⟨kind, mem⟩ := Bus.names_of_detect found
  unfold Controller.classify at kind
  split at kind
  case isTrue panel => exact panel ▸ mem
  case isFalse => cases kind

/-! ## What a search comes to -/

namespace Bus

section Search

variable {config : Config} {world : World} {address : UInt8} {bytes : List UInt8} {starts : Nat}
  {bus : Bus}
variable (quiet : world.statusWords = []) (on : bus.On (resting world bytes starts))
  (free : world.stuck = false)
  (short : ∀ address ∈ config.scanOrder, addressOf (address <<< 1) = address)
include quiet on free short

theorem detect_of_absent (nowhere : config.firstDevice? world = none) : ∃ next,
    detect config bus = .error .noDeviceFound next ∧ next.board.scene.addressBytes =
      ((config.probed world).map addressByte).reverse ++ bytes := by
  obtain ⟨absent, probed⟩ := Config.probed_of_none nowhere
  have missing : ∀ address ∈ config.scanOrder,
      world.devices.contains (addressOf (address <<< 1)) = false := by
    intro address mem
    rw [short address mem]
    exact absent address mem
  obtain ⟨next, _, reached, on⟩ := scan_of_absent quiet on free missing
  have ended : bus.scan config.scanOrder = (none, next) := by
    rw [← List.append_nil config.scanOrder, reached, scan_nil]
  refine ⟨next, ?_, ?_⟩
  · rw [detect, ended]
    dsimp only
    rw [on.alive]
    rfl
  · rw [probed]
    exact congrArg Scene.addressBytes on.scene

variable (found : config.firstDevice? world = some address)
include found

/-- The search comes to the first device between two transactions. -/
theorem scan_firstDevice : ∃ (before rest : List UInt8) (next : Bus) (starts' : Nat),
    bus.scan config.scanOrder = next.scan (address :: rest) ∧
      config.probed world = before ++ [address] ∧
      world.devices.contains (addressOf (address <<< 1)) = true ∧
      next.On (resting world ((before.map addressByte).reverse ++ bytes) starts') := by
  obtain ⟨before, rest, order, device, absent, probed⟩ := Config.exists_of_firstDevice? found
  have named : ∀ other ∈ before ++ address :: rest, addressOf (other <<< 1) = other := by
    rw [← order]
    exact short
  have missing : ∀ other ∈ before,
      world.devices.contains (addressOf (other <<< 1)) = false := by
    intro other mem
    rw [named other (List.mem_append_left _ mem)]
    exact absent other mem
  obtain ⟨next, starts', reached, on⟩ := scan_of_absent quiet on free missing
  refine ⟨before, rest, next, starts', ?_, probed, ?_, on⟩
  · rw [order, reached]
  · rw [named address (List.mem_append_right before List.mem_cons_self)]
    exact device

/-- A bus that holds its bytes dies of the first device. -/
theorem detect_of_held (held : world.holdBytes = true) : ∃ next,
    detect config bus = .error (.bus .timeout) next ∧ next.board.scene.addressBytes =
      ((config.probed world).map addressByte).reverse ++ bytes := by
  obtain ⟨before, rest, reached, _, scanned, probed, device, on⟩ :=
    scan_firstDevice quiet on free short found
  obtain ⟨next, ended, dead, sent⟩ := scan_of_held quiet on free device held
  refine ⟨next, ?_, ?_⟩
  · rw [detect, scanned, ended]
    dsimp only
    rw [dead]
    rfl
  · rw [probed, List.map_append, List.reverse_append]
    exact sent

theorem detect_of_device (moving : world.holdBytes = false) (ready : world.stopBusy = 0) :
    ∃ next starts', detect config bus = .ok (.classify config address) next ∧
      next.On (resting world (((config.probed world).map addressByte).reverse ++ bytes) starts') := by
  obtain ⟨before, rest, reached, starts', scanned, probed, device, on⟩ :=
    scan_firstDevice quiet on free short found
  obtain ⟨next, ended, on'⟩ := scan_of_device quiet on free device moving ready
  refine ⟨next, starts' + 1, ?_, ?_⟩
  · rw [detect, scanned, ended]
  · rw [probed, List.map_append, List.reverse_append]
    exact on'

end Search

/-! ## Boards without faults -/

/-- A live bus between two transactions, on a board that has devices but no faults. -/
structure FaultFree (bus : Bus) : Prop where
  alive : bus.alive = true
  flags : bus.board.master.flags = .none
  phase : bus.board.master.phase = .idle
  world : bus.board.world = { devices := bus.board.world.devices }

namespace FaultFree

variable {bus : Bus} (h : bus.FaultFree)
include h

theorem on : bus.On
    (resting bus.board.world bus.board.wire.addressBytes bus.board.scene.starts) := by
  refine ⟨h.alive, ?_⟩
  unfold Board.scene resting
  rw [h.flags, h.phase, h.world]
  rfl

variable {config : Config} (valid : config.validate = .ok ())
include valid

/-- The first device is all that there is to be found. -/
theorem detect_of_some {address : UInt8}
    (found : config.firstDevice? bus.board.world = some address) :
    ∃ next, detect config bus = .ok (.classify config address) next := by
  have world := h.world
  obtain ⟨next, _, detected, _⟩ := detect_of_device (congrArg World.statusWords world) h.on
    (congrArg World.stuck world) (Config.short_of_valid valid) found (congrArg World.holdBytes world)
    (congrArg World.stopBusy world)
  exact ⟨next, detected⟩

theorem detect_of_none (nowhere : config.firstDevice? bus.board.world = none) :
    ∃ next, detect config bus = .error .noDeviceFound next := by
  have world := h.world
  obtain ⟨next, detected, _⟩ := detect_of_absent (congrArg World.statusWords world) h.on
    (congrArg World.stuck world) (Config.short_of_valid valid) nowhere
  exact ⟨next, detected⟩

theorem detect_ok_iff {controller : Controller} :
    (∃ next, detect config bus = .ok controller next) ↔ ∃ address,
      config.firstDevice? bus.board.world = some address ∧
        controller = .classify config address := by
  constructor
  · rintro ⟨next, detected⟩
    cases found : config.firstDevice? bus.board.world with
    | none =>
      obtain ⟨last, failed⟩ := h.detect_of_none valid found
      rw [failed] at detected
      cases detected
    | some address =>
      obtain ⟨last, first⟩ := h.detect_of_some valid found
      rw [first] at detected
      cases detected
      exact ⟨address, rfl, rfl⟩
  · rintro ⟨address, found, rfl⟩
    exact h.detect_of_some valid found

end FaultFree

end Bus

/--
**A configuration is valid just if its panel can be found.** Let its ranges be valid and its timeouts not
zero. Then it is valid if and only if there is a board without faults on which the search finds a bitmap
panel. With any valid configuration the search finds the panel on each board without faults whose only
device is at the panel's address. It finds a display on a board without faults if and only if there is a
device in one of the ranges, and what it finds is at the address of a device. If a configuration is refused
because its panel's address is in neither range, the search finds a bitmap panel on no board at all.
-/
theorem validate_iff_detectable (config : Config) :
    (config.lcdRange.isValid = true ∧ config.oledRange.isValid = true ∧
        config.busTimeoutMillis ≠ 0 ∧ config.watchdogTimeoutMillis ≠ 0 →
      (config.validate = .ok () ↔ ∃ bus address next, bus.FaultFree ∧
        Bus.detect config bus = .ok (.bitmap address) next)) ∧
    (config.validate = .ok () → ∀ bus : Bus, bus.FaultFree →
      ((∀ device, device ∈ bus.board.world.devices ↔ device = config.oledAddress) →
        ∃ next, Bus.detect config bus = .ok (.bitmap config.oledAddress) next) ∧
      ((∃ controller next, Bus.detect config bus = .ok controller next) ↔
        ∃ device ∈ bus.board.world.devices, config.lcdRange.contains device = true ∨
          config.oledRange.contains device = true) ∧
      ∀ controller next, Bus.detect config bus = .ok controller next →
        controller.address ∈ bus.board.world.devices) ∧
    (config.validate = .error .oledAddressNotProbed →
      ∀ bus address next, Bus.detect config bus ≠ .ok (.bitmap address) next) := by
  have panel (valid : config.validate = .ok ()) (bus : Bus) (h : bus.FaultFree)
      (sole : ∀ device, device ∈ bus.board.world.devices ↔ device = config.oledAddress) :
      ∃ next, Bus.detect config bus = .ok (.bitmap config.oledAddress) next := by
    have tried : config.oledAddress ∈ config.scanOrder := (Config.validate_eq_ok_iff.1 valid).2.1
    obtain ⟨address, found⟩ := Config.exists_firstDevice?_iff.2
      ⟨_, (sole _).2 rfl, Config.mem_scanOrder.1 tried⟩
    have only : address = config.oledAddress := (sole _).1 (Config.mem_of_firstDevice? found)
    subst only
    obtain ⟨next, detected⟩ := h.detect_of_some valid found
    rw [Controller.classify, if_pos rfl] at detected
    exact ⟨next, detected⟩
  refine ⟨?_, fun valid bus h => ⟨panel valid bus h, ?_, ?_⟩, ?_⟩
  · rintro ⟨lcd, oled, busTimeout, watchdogTimeout⟩
    constructor
    · intro valid
      let bus : Bus := { board.world.devices := [config.oledAddress], timeout := config.busTimeout }
      have free : bus.FaultFree := ⟨rfl, rfl, rfl, rfl⟩
      obtain ⟨next, detected⟩ := panel valid bus free fun device => List.mem_singleton
      exact ⟨bus, _, next, free, detected⟩
    · rintro ⟨bus, address, next, _, detected⟩
      exact Config.validate_eq_ok_iff.2
        ⟨⟨lcd, oled⟩, Bus.mem_scanOrder_of_bitmap detected, busTimeout, watchdogTimeout⟩
  · rw [← Config.exists_firstDevice?_iff]
    constructor
    · rintro ⟨controller, detected⟩
      obtain ⟨address, found, _⟩ := (h.detect_ok_iff valid).1 detected
      exact ⟨address, found⟩
    · rintro ⟨address, found⟩
      exact ⟨_, (h.detect_ok_iff valid).2 ⟨address, found, rfl⟩⟩
  · intro controller next detected
    obtain ⟨address, found, rfl⟩ := (h.detect_ok_iff valid).1 ⟨next, detected⟩
    rw [Controller.address_classify]
    exact Config.mem_of_firstDevice? found
  · intro refused bus address next detected
    exact Config.not_mem_of_not_probed refused (Bus.mem_scanOrder_of_bitmap detected)

/-- The panel's address need not lie in the range that panels usually have. -/
theorem validate_iff_detectable_lcdRange :
    let config : Config := { oledAddress := 0x20 }
    let bus : Bus := { board.world.devices := [0x20], timeout := config.busTimeout }
    config.validate = .ok () ∧ bus.FaultFree ∧
      (∀ device, device ∈ bus.board.world.devices ↔ device = config.oledAddress) ∧
      ∃ next, Bus.detect config bus = .ok (.bitmap config.oledAddress) next := by
  intro config bus
  have valid : config.validate = .ok () := rfl
  have free : bus.FaultFree := ⟨rfl, rfl, rfl, rfl⟩
  have sole : ∀ device, device ∈ bus.board.world.devices ↔ device = config.oledAddress :=
    fun device => List.mem_singleton
  exact ⟨valid, free, sole, ((validate_iff_detectable config).2.1 valid bus free).1 sole⟩

end StatusDisplay
