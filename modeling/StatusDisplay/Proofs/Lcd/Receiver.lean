import StatusDisplay.Lcd.Stream

/-!
# The receiver of a character display

What the display makes of the bytes at its expander. A half byte is latched when the strobe falls.
The link puts halves together, as wide as it takes its bus to be, and what comes out is an order or
a cell; the glass obeys orders and stores cells. What the link makes of a stretch of bytes does not
depend on the glass, so the two are looked at apart (`Receiver.receiveAll_eq`).
-/

namespace StatusDisplay.Lcd

/-! ## Lines of the expander -/

/-- Half a byte, as it stands on the four data lines. -/
abbrev HalfByte := BitVec 4

/-- The half byte on the data lines. -/
def dataLines (byte : UInt8) : HalfByte := byte.toBitVec.extractLsb' 4 4

/-- Whether the strobe is up. -/
def strobeLine (byte : UInt8) : Bool := byte.toBitVec[2]

/-- Whether the data register is selected. -/
def registerLine (byte : UInt8) : Bool := byte.toBitVec[0]

/-- The byte that two halves make. -/
def joinHalves (high low : HalfByte) : UInt8 := ⟨high ++ low⟩

/-! ## Orders -/

/-- What an instruction tells the display to do. -/
inductive Order where
  /-- Go on at an address of the display memory. -/
  | selectCell (address : BitVec 7)
  /-- Go on at an address of the character generator. -/
  | selectGlyph (address : BitVec 6)
  | setFunction (wide twoRows : Bool)
  | setDisplay (on cursor blink : Bool)
  | setEntry (increments shifts : Bool)
  /-- Something that neither the memories nor the settings take notice of. -/
  | other
  deriving DecidableEq, Repr

/-- Option of `Instruction.functionSet`: all eight data lines are in use. -/
def eightLines : UInt8 := 0x10

/-- The order that an instruction code stands for, told by its highest bit. -/
def Order.ofCode (code : UInt8) : Order :=
  if Instruction.setAddress ≤ code then .selectCell (code.toBitVec.setWidth 7)
  else if 0x40 ≤ code then .selectGlyph (code.toBitVec.setWidth 6)
  else if Instruction.functionSet ≤ code then
    .setFunction (code &&& eightLines != 0) (code &&& Instruction.twoRows != 0)
  else if 0x10 ≤ code then .other
  else if Instruction.displayControl ≤ code then
    .setDisplay (code &&& Instruction.displayOn != 0) (code &&& 0x02 != 0) (code &&& 0x01 != 0)
  else if Instruction.entryMode ≤ code then
    .setEntry (code &&& Instruction.increment != 0) (code &&& 0x01 != 0)
  else .other

/-! ## The link -/

/-- How many data lines the display takes to be in use. -/
inductive Width where
  /-- Eight, of which the lower four read as zero: every half byte is an instruction. -/
  | eight
  /-- Four: a byte comes in two halves, and the high one may be waiting for the low one. -/
  | four (high : Option HalfByte)
  deriving DecidableEq, Repr

/-- What comes out of the link. -/
inductive Received where
  | order (order : Order)
  | cell (value : UInt8)
  deriving DecidableEq, Repr

/-- The width after an order has been taken. -/
def Width.after (width : Width) : Order → Width
  | .setFunction true _ => .eight
  | .setFunction false _ => .four none
  | _ => width

/-- What a half byte leads to; `data` is the register line that came with it. -/
def Width.latch : Width → HalfByte → (data : Bool) → Width × Option Received
  | .eight, half, _ =>
    let order := Order.ofCode (joinHalves half 0)
    (Width.after .eight order, some (.order order))
  | .four none, half, _ => (.four (some half), none)
  | .four (some high), half, true => (.four none, some (.cell (joinHalves high half)))
  | .four (some high), half, false =>
    let order := Order.ofCode (joinHalves high half)
    (Width.after (.four none) order, some (.order order))

/-- The end of the expander: the byte that stood there last, and the width. -/
structure Link where
  last : UInt8
  width : Width
  deriving DecidableEq, Repr

namespace Link

/-- The next byte at the expander. Where the strobe falls, the byte before it is latched. -/
def receive (link : Link) (byte : UInt8) : Link × Option Received :=
  if strobeLine link.last && !strobeLine byte then
    let (width, received) := link.width.latch (dataLines link.last) (registerLine link.last)
    (⟨byte, width⟩, received)
  else ({ link with last := byte }, none)

theorem receive_of_low (link : Link) (byte : UInt8) (low : strobeLine link.last = false) :
    link.receive byte = ({ link with last := byte }, none) := by
  rw [receive, low]
  rfl

theorem receive_of_raised (link : Link) (byte : UInt8) (raised : strobeLine byte = true) :
    link.receive byte = ({ link with last := byte }, none) := by
  rw [receive, raised, Bool.not_true, Bool.and_false]
  rfl

theorem receive_of_falling (link : Link) (byte : UInt8) (up : strobeLine link.last = true)
    (down : strobeLine byte = false) :
    link.receive byte =
      (⟨byte, (link.width.latch (dataLines link.last) (registerLine link.last)).1⟩,
        (link.width.latch (dataLines link.last) (registerLine link.last)).2) := by
  rw [receive, up, down]
  rfl

/-- The link after a stretch of bytes, and what came out of it. -/
def run (link : Link) : List UInt8 → Link × List Received
  | [] => (link, [])
  | byte :: bytes =>
    let (next, received) := link.receive byte
    let (final, more) := next.run bytes
    (final, received.toList ++ more)

@[simp] theorem run_nil (link : Link) : link.run [] = (link, []) := rfl

theorem run_cons (link : Link) (byte : UInt8) (bytes : List UInt8) :
    link.run (byte :: bytes) =
      (((link.receive byte).1.run bytes).1,
        (link.receive byte).2.toList ++ ((link.receive byte).1.run bytes).2) := rfl

theorem run_append (link : Link) (bytes more : List UInt8) :
    link.run (bytes ++ more) =
      (((link.run bytes).1.run more).1, (link.run bytes).2 ++ ((link.run bytes).1.run more).2) := by
  induction bytes generalizing link with
  | nil => rfl
  | cons byte bytes ih =>
    rw [List.cons_append, run_cons, ih, run_cons, List.append_assoc]

end Link

/-! ## The glass -/

/-- Where the next cell goes. Both address counters wrap. -/
inductive Pointer where
  | cell (address : BitVec 7)
  | glyph (address : BitVec 6)
  deriving DecidableEq, Repr

/-- One address further on. -/
def Pointer.next : Pointer → Pointer
  | cell address => cell (address + 1)
  | glyph address => glyph (address + 1)

/-- The memories of the display, and how it is set. -/
structure Glass where
  /-- Display memory. -/
  cells : BitVec 7 → UInt8
  /-- The character generator's memory. -/
  glyphs : BitVec 6 → UInt8
  pointer : Pointer
  twoRows : Bool
  on : Bool
  cursor : Bool
  blink : Bool
  increments : Bool
  shifts : Bool

namespace Glass

/-- Carries out an order. -/
def obey (glass : Glass) : Order → Glass
  | .selectCell address => { glass with pointer := .cell address }
  | .selectGlyph address => { glass with pointer := .glyph address }
  | .setFunction _ twoRows => { glass with twoRows }
  | .setDisplay on cursor blink => { glass with on, cursor, blink }
  | .setEntry increments shifts => { glass with increments, shifts }
  | .other => glass

/-- Puts a value where the pointer says. -/
def put (glass : Glass) (value : UInt8) : Glass :=
  match glass.pointer with
  | .cell address =>
    { glass with cells := fun other => if other = address then value else glass.cells other }
  | .glyph address =>
    { glass with glyphs := fun other => if other = address then value else glass.glyphs other }

/-- Stores a value and, if addresses are to grow, goes on to the next one. -/
def store (glass : Glass) (value : UInt8) : Glass :=
  if glass.increments then { glass.put value with pointer := glass.pointer.next }
  else glass.put value

/-- What the glass does with what came out of the link. -/
def take (glass : Glass) : Received → Glass
  | .order order => glass.obey order
  | .cell value => glass.store value

end Glass

/-! ## The whole receiver -/

/-- A character display behind its expander. -/
structure Receiver where
  link : Link
  glass : Glass

namespace Receiver

/-- The next byte at the expander. -/
def receive (lcd : Receiver) (byte : UInt8) : Receiver :=
  let (link, received) := lcd.link.receive byte
  ⟨link, received.elim lcd.glass lcd.glass.take⟩

/-- A stretch of bytes. -/
def receiveAll (lcd : Receiver) (bytes : List UInt8) : Receiver := bytes.foldl receive lcd

/-- The link decides what is received, and the glass takes it. -/
theorem receiveAll_eq (lcd : Receiver) (bytes : List UInt8) :
    lcd.receiveAll bytes =
      ⟨(lcd.link.run bytes).1, (lcd.link.run bytes).2.foldl Glass.take lcd.glass⟩ := by
  induction bytes generalizing lcd with
  | nil => rfl
  | cons byte bytes ih =>
    have first : lcd.receiveAll (byte :: bytes) = (lcd.receive byte).receiveAll bytes := rfl
    rw [first, ih, Link.run_cons, List.foldl_append]
    unfold receive
    rcases lcd.link.receive byte with ⟨next, received⟩
    cases received <;> rfl

theorem receiveAll_append (lcd : Receiver) (bytes more : List UInt8) :
    lcd.receiveAll (bytes ++ more) = (lcd.receiveAll bytes).receiveAll more :=
  List.foldl_append

end Receiver

end StatusDisplay.Lcd
