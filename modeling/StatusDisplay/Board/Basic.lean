import StatusDisplay.Board.Call

/-!
# The board

A model of the hardware under the driver: a bus master, a transfer channel, two lines, an
interrupt controller, an alarm, and the peers on the other side of the bus. `World` holds what the
driver cannot choose. Time is counted in microseconds and passes only while the driver polls.
`trace` is the whole exchange with the driver, the latest call first.
-/

namespace StatusDisplay

/-- How far a transaction has come, as the bus master sees it. -/
inductive Phase where
  | idle
  /-- A start condition is out; an address byte comes next. -/
  | started
  /-- A peer has acknowledged its address. -/
  | addressed
  /-- Data bytes go to the peer. -/
  | data
  deriving DecidableEq, Repr

/-- The registers of the bus master. -/
structure BusMaster where
  powered : Bool := false
  enabled : Bool := false
  flags : Status := .none
  phase : Phase := .idle
  eventIrq : Bool := false
  errorIrq : Bool := false
  transferRequests : Bool := false
  deriving DecidableEq, Repr

/-- One line of the bus, as the board drives it. -/
structure LineState where
  mode : LineMode := .pullUpInput
  drivenLow : Bool := false
  deriving DecidableEq, Repr

/-- One source at the interrupt controller; no priority until one is set. -/
structure IrqSource where
  enabled : Bool := false
  priority : Option UInt8 := none
  pending : Bool := false
  deriving DecidableEq, Repr

/-- The interrupt controller. -/
structure IrqSources where
  busEvent : IrqSource := {}
  busError : IrqSource := {}
  transferDone : IrqSource := {}
  deriving DecidableEq, Repr

/-- The state of one source. -/
def IrqSources.get (sources : IrqSources) : Irq → IrqSource
  | .busEvent => sources.busEvent
  | .busError => sources.busError
  | .transferDone => sources.transferDone

/-- Changes one source and leaves the others. -/
def IrqSources.modify (sources : IrqSources) (irq : Irq) (f : IrqSource → IrqSource) : IrqSources :=
  match irq with
  | .busEvent => { sources with busEvent := f sources.busEvent }
  | .busError => { sources with busError := f sources.busError }
  | .transferDone => { sources with transferDone := f sources.transferDone }

/-- What peers and wiring do, and answers that are laid down beforehand. -/
structure World where
  /-- Addresses that are acknowledged. -/
  devices : List UInt8 := []
  /-- No start condition gets out, and no byte leaves. -/
  stuck : Bool := false
  /-- Bytes are taken but never finish. -/
  holdBytes : Bool := false
  /-- A peer holds the data line until it sees a clock pulse. -/
  sdaHeld : Bool := false
  sdaShorted : Bool := false
  sclShorted : Bool := false
  /-- The lines have no pull-ups. -/
  floating : Bool := false
  /-- How many more polls find a stop condition unfinished. -/
  stopBusy : Nat := 0
  /-- Words that the next status reads return in place of the bus master's own. -/
  statusWords : List Status := []
  /-- Levels that the next samples of the clock line find. -/
  sclLevels : List Bool := []
  /-- Levels that the next samples of the data line find. -/
  sdaLevels : List Bool := []
  deriving DecidableEq, Repr

/-- What has reached the peers, the latest byte first. -/
structure Wire where
  /-- Bytes sent right after a start condition. -/
  addressBytes : List UInt8 := []
  /-- Addresses that were acknowledged. -/
  acknowledged : List UInt8 := []
  /-- Data bytes written by hand. -/
  dataBytes : List UInt8 := []
  deriving DecidableEq, Repr

/-- The address that an address byte names; its lowest bit tells reading from writing. -/
def addressOf (byte : UInt8) : UInt8 := byte >>> 1

/-- The addresses that were tried, in their order. -/
def Wire.addressesTried (wire : Wire) : List UInt8 := (wire.addressBytes.map addressOf).reverse

/-- The board with everything on it. -/
structure Board where
  /-- Microseconds since power-on. -/
  clock : Nat := 0
  master : BusMaster := {}
  wire : Wire := {}
  transferActive : Bool := false
  scl : LineState := {}
  sda : LineState := {}
  irqs : IrqSources := {}
  /-- The time for which the alarm is set. -/
  alarm : Option Nat := none
  world : World := {}
  trace : List Call := []
  deriving DecidableEq, Repr

namespace Board

instance : Inhabited Board := ⟨{}⟩

/-- Enters a call into the trace. -/
def record (board : Board) (call : Call) : Board := { board with trace := call :: board.trace }

/-- The speed configured last. -/
def speed? (board : Board) : Option Speed := board.trace.findSome? Call.speed?

/-- How many calls so far satisfy `p`. -/
def countCalls (board : Board) (p : Call → Bool) : Nat := board.trace.countP p

/-- The state of a line. -/
def line (board : Board) : Line → LineState
  | .scl => board.scl
  | .sda => board.sda

/-- Changes the state of a line. -/
def modifyLine (board : Board) (line : Line) (f : LineState → LineState) : Board :=
  match line with
  | .scl => { board with scl := f board.scl }
  | .sda => { board with sda := f board.sda }

end Board

end StatusDisplay
