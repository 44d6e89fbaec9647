import StatusDisplay.Proofs.Engine.Refresh
import StatusDisplay.Proofs.Lcd.Display

/-!
# What a character frame spells

A frame is made of groups of six expander writes, two pulses of the strobe for each byte. In every
write of a pulse the lower lines carry signals alone, whatever the data lines carry (`Pulse.Clocks`),
so the words of a frame can be read off its groups (`Spells`). They are the row addresses and the
cells, in their order; so a frame tells its grid and its backlight (`frame_round_trip`).
-/

namespace StatusDisplay.Lcd

/-! ## The lower lines -/

/-- The four lines below the data lines. -/
def signalLines (byte : UInt8) : BitVec 4 := byte.toBitVec.extractLsb' 0 4

/-- Whether the display is to be read. -/
def readLine (byte : UInt8) : Bool := byte.toBitVec[1]

theorem registerLine_eq (byte : UInt8) : registerLine byte = (signalLines byte)[0] := by
  simp [registerLine, signalLines]

theorem readLine_eq (byte : UInt8) : readLine byte = (signalLines byte)[1] := by
  simp [readLine, signalLines]

theorem strobeLine_eq (byte : UInt8) : strobeLine byte = (signalLines byte)[2] := by
  simp [strobeLine, signalLines]

theorem backlightLine_eq (byte : UInt8) : backlightLine byte = (signalLines byte)[3] := by
  simp [backlightLine, signalLines]

theorem signalLines_or (a b : UInt8) : signalLines (a ||| b) = signalLines a ||| signalLines b := by
  unfold signalLines
  rw [UInt8.toBitVec_or, BitVec.extractLsb'_or]

/-- No bit of a high half reaches the lower lines. -/
theorem signalLines_high (value : UInt8) : signalLines (value &&& 0xf0) = 0 := by
  unfold signalLines
  rw [UInt8.toBitVec_and, BitVec.extractLsb'_and]
  exact BitVec.and_zero

/-- Nor does any bit of a low half. -/
theorem signalLines_low (value : UInt8) : signalLines (value <<< 4) = 0 := by
  apply BitVec.eq_of_getLsbD_eq
  intro i hi
  simp [signalLines, hi]

/-- Signals that tell the backlight and the register, and nothing else. -/
structure Carries (signals : UInt8) (lit data : Bool) : Prop extends Signals signals where
  read : readLine signals = false
  backlight : backlightLine signals = lit
  register : registerLine signals = data

theorem carries_instruction (lit : Bool) : Carries (backlightSignal lit) lit false := by
  cases lit <;> exact ⟨⟨rfl, rfl⟩, rfl, rfl, rfl⟩

theorem carries_cell (lit : Bool) : Carries (registerBit ||| backlightSignal lit) lit true := by
  cases lit <;> exact ⟨⟨rfl, rfl⟩, rfl, rfl, rfl⟩

/-- Of the signals a write carries those of `signals`, if its own bits stay off the lower lines. -/
theorem Carries.shows {signals own : UInt8} {lit data : Bool} (carries : Carries signals lit data)
    (apart : signalLines own = 0) :
    strobeLine (own ||| signals) = false ∧ readLine (own ||| signals) = false ∧
      backlightLine (own ||| signals) = lit ∧ registerLine (own ||| signals) = data := by
  have same : signalLines (own ||| signals) = signalLines signals := by
    rw [signalLines_or, apart]
    exact BitVec.zero_or
  rw [strobeLine_eq, readLine_eq, backlightLine_eq, registerLine_eq, same, ← strobeLine_eq,
    ← readLine_eq, ← backlightLine_eq, ← registerLine_eq]
  exact ⟨carries.strobe, carries.read, carries.backlight, carries.register⟩

/-! ## Pulses and groups -/

/-- Three writes that clock a half byte in. -/
structure Pulse where
  setUp : UInt8
  raised : UInt8
  lowered : UInt8
  deriving DecidableEq, Repr

namespace Pulse

def bytes (pulse : Pulse) : List UInt8 := [pulse.setUp, pulse.raised, pulse.lowered]

/-- The strobe goes up and down once. Nothing is read, and the backlight is as `lit` says. -/
structure Clocks (pulse : Pulse) (lit : Bool) : Prop where
  raised : pulse.raised = pulse.setUp ||| enableBit
  lowered : pulse.lowered = pulse.setUp
  strobe : strobeLine pulse.setUp = false
  writes : ∀ byte ∈ pulse.bytes, readLine byte = false
  backlight : ∀ byte ∈ pulse.bytes, backlightLine byte = lit

/-- The pulse of a strobe. -/
def ofStrobe (value : UInt8) : Pulse := ⟨value, value ||| enableBit, value⟩

theorem clocks_ofStrobe {value : UInt8} {lit : Bool} (strobe : strobeLine value = false)
    (writes : readLine value = false) (backlight : backlightLine value = lit) :
    (ofStrobe value).Clocks lit := by
  have read : readLine (value ||| enableBit) = readLine value := by
    simp [readLine, enableBit]
  refine ⟨rfl, rfl, strobe, ?_, ?_⟩
  · simp [bytes, ofStrobe, read, writes]
  · simp [bytes, ofStrobe, backlightLine_raised, backlight]

end Pulse

/-- A byte, with the register that it is meant for. -/
structure Word where
  value : UInt8
  data : Bool
  deriving DecidableEq, Repr

/-- An instruction code. -/
def Word.instruction (code : UInt8) : Word := ⟨code, false⟩

/-- A cell. -/
def Word.cell (value : UInt8) : Word := ⟨value, true⟩

/-- Six writes that clock a byte in. -/
structure Group where
  high : Pulse
  low : Pulse
  deriving DecidableEq, Repr

namespace Group

def bytes (group : Group) : List UInt8 := group.high.bytes ++ group.low.bytes

/-- Both halves are clocked in, and into the same register. -/
structure Clocks (group : Group) (lit : Bool) : Prop where
  high : group.high.Clocks lit
  low : group.low.Clocks lit
  register : registerLine group.low.setUp = registerLine group.high.setUp

/-- The word that the upper halves of the writes make. -/
def word (group : Group) : Word :=
  ⟨joinHalves (dataLines group.high.setUp) (dataLines group.low.setUp),
    registerLine group.high.setUp⟩

/-- The group of a byte. -/
def ofByte (value signals : UInt8) : Group :=
  ⟨.ofStrobe (value &&& 0xf0 ||| signals), .ofStrobe (value <<< 4 ||| signals)⟩

theorem flatten_byte (value signals : UInt8) :
    (Lcd.byte value signals).flatten = (ofByte value signals).bytes := rfl

section

variable {signals : UInt8} {lit data : Bool} (carries : Carries signals lit data) (value : UInt8)
include carries

theorem clocks_ofByte : (ofByte value signals).Clocks lit := by
  obtain ⟨highStrobe, highRead, highLit, highRegister⟩ := carries.shows (signalLines_high value)
  obtain ⟨lowStrobe, lowRead, lowLit, lowRegister⟩ := carries.shows (signalLines_low value)
  exact {
    high := Pulse.clocks_ofStrobe highStrobe highRead highLit
    low := Pulse.clocks_ofStrobe lowStrobe lowRead lowLit
    register := lowRegister.trans highRegister.symm }

theorem word_ofByte : (ofByte value signals).word = ⟨value, data⟩ := by
  obtain ⟨_, _, _, register⟩ := carries.shows (signalLines_high value)
  show Word.mk (joinHalves (dataLines (value &&& 0xf0 ||| signals))
    (dataLines (value <<< 4 ||| signals))) (registerLine (value &&& 0xf0 ||| signals)) = _
  rw [carries.dataLines_high, carries.dataLines_low, joinHalves_eq, register]

end

end Group

/-! ## Words -/

/-- The bytes are groups that clock in these words. -/
def Spells (lit : Bool) (bytes : List UInt8) (words : List Word) : Prop :=
  ∃ groups : List Group, bytes = groups.flatMap Group.bytes ∧
    (∀ group ∈ groups, group.Clocks lit) ∧ groups.map Group.word = words

namespace Spells

variable {lit : Bool} {bytes more : List UInt8} {words rest : List Word}

theorem nil (lit : Bool) : Spells lit [] [] := ⟨[], rfl, nofun, rfl⟩

theorem append (h : Spells lit bytes words) (h' : Spells lit more rest) :
    Spells lit (bytes ++ more) (words ++ rest) := by
  obtain ⟨groups, rfl, clocks, rfl⟩ := h
  obtain ⟨groups', rfl, clocks', rfl⟩ := h'
  exact ⟨groups ++ groups', List.flatMap_append.symm,
    List.forall_mem_append.2 ⟨clocks, clocks'⟩, List.map_append⟩

theorem byte {signals : UInt8} {data : Bool} (carries : Carries signals lit data) (value : UInt8) :
    Spells lit (Lcd.byte value signals).flatten [⟨value, data⟩] := by
  refine ⟨[.ofByte value signals], ?_, ?_, ?_⟩
  · rw [Group.flatten_byte, List.flatMap_singleton]
  · exact List.forall_mem_singleton.2 (Group.clocks_ofByte carries value)
  · exact congrArg (fun word => [word]) (Group.word_ofByte carries value)

/-- A byte for each of `values`, in their order. -/
theorem flatMap {signals : UInt8} {data : Bool} (carries : Carries signals lit data)
    (values : List UInt8) :
    Spells lit (values.flatMap (Lcd.byte · signals)).flatten (values.map (⟨·, data⟩)) := by
  induction values with
  | nil => exact nil lit
  | cons value values ih =>
    rw [List.flatMap_cons, List.flatten_append]
    exact (byte carries value).append ih

theorem row (address : UInt8) (cells : Text.Row) (lit : Bool) :
    Spells lit (rowChunks address cells lit).flatten
      (.instruction (Instruction.setAddress ||| address) :: cells.toList.map .cell) := by
  rw [rowChunks, List.flatten_append]
  exact (byte (carries_instruction lit) _).append (flatMap (carries_cell lit) cells.toList)

theorem frame (grid : Text.Grid) (lit : Bool) :
    Spells lit (Lcd.frame grid lit).flatten
      (.instruction 0x80 :: grid.rows[0].toList.map .cell ++
        .instruction 0xc0 :: grid.rows[1].toList.map .cell) := by
  rw [frame_eq, List.flatten_append]
  exact (row 0x00 grid.rows[0] lit).append (row 0x40 grid.rows[1] lit)

end Spells

/-! ## Reading a frame -/

/-- The bytes six by six; what is left over at the end is no group. -/
def groupsOf : List UInt8 → List Group
  | a :: b :: c :: d :: e :: f :: rest => ⟨⟨a, b, c⟩, ⟨d, e, f⟩⟩ :: groupsOf rest
  | _ => []

theorem groupsOf_flatMap (groups : List Group) : groupsOf (groups.flatMap Group.bytes) = groups := by
  induction groups with
  | nil => rfl
  | cons group groups ih => exact congrArg (group :: ·) ih

/-- The cells among the words, in their order. -/
def cellsOf (words : List Word) : List UInt8 := (words.filter Word.data).map Word.value

/-- The grid and the backlight that bytes tell, with blanks for cells that are missing. -/
def readFrame (bytes : List UInt8) : Text.Grid × Bool :=
  let cells := cellsOf ((groupsOf bytes).map Group.word)
  let row (index : Nat) : Text.Row :=
    .ofFn fun col => cells.getD (index * Text.columnCount + col) Text.blank
  (⟨.ofFn fun index => row index⟩, bytes.head?.any backlightLine)

theorem Spells.groupsOf_eq {lit : Bool} {bytes : List UInt8} {words : List Word}
    (h : Spells lit bytes words) : (groupsOf bytes).map Group.word = words := by
  obtain ⟨groups, rfl, _, rfl⟩ := h
  rw [groupsOf_flatMap]

theorem Spells.head_lit {lit : Bool} {bytes : List UInt8} {words : List Word}
    (h : Spells lit bytes words) (some : words ≠ []) : bytes.head?.any backlightLine = lit := by
  obtain ⟨groups, rfl, clocks, rfl⟩ := h
  cases groups with
  | nil => exact absurd rfl some
  | cons group groups =>
    exact (clocks group List.mem_cons_self).high.backlight _ List.mem_cons_self

theorem cellsOf_append (words more : List Word) :
    cellsOf (words ++ more) = cellsOf words ++ cellsOf more := by
  rw [cellsOf, List.filter_append, List.map_append]
  rfl

theorem cellsOf_row (code : UInt8) (cells : List UInt8) :
    cellsOf (.instruction code :: cells.map .cell) = cells := by
  induction cells with
  | nil => rfl
  | cons cell cells ih => exact congrArg (cell :: ·) ih

theorem readFrame_frame (grid : Text.Grid) (lit : Bool) :
    readFrame (frame grid lit).flatten = (grid, lit) := by
  have spells := Spells.frame grid lit
  have cells : cellsOf ((groupsOf (frame grid lit).flatten).map Group.word) =
      grid.rows[0].toList ++ grid.rows[1].toList := by
    rw [spells.groupsOf_eq, cellsOf_append, cellsOf_row, cellsOf_row]
  have light := spells.head_lit (List.cons_ne_nil _ _)
  unfold readFrame
  rw [cells, light]
  refine congrArg (fun rows => (Text.Grid.mk rows, lit)) ?_
  ext index inside col within
  have upper : grid.rows[0].toList.length = Text.columnCount := Vector.length_toList
  have lower : grid.rows[1].toList.length = Text.columnCount := Vector.length_toList
  simp only [Vector.getElem_ofFn]
  obtain rfl | rfl : index = 0 ∨ index = 1 := by
    unfold Text.rowCount at inside
    omega
  · rw [Nat.zero_mul, Nat.zero_add, List.getD_append _ _ _ _ (by omega),
      List.getD_eq_getElem _ _ (by omega), Vector.getElem_toList]
  · rw [Nat.one_mul, List.getD_append_right _ _ _ _ (by omega), upper, Nat.add_sub_cancel_left,
      List.getD_eq_getElem _ _ (by omega), Vector.getElem_toList]

/--
**A frame tells its grid and its backlight.** Whatever the payload was before, it is filled with the
204 bytes of the frame. They are 34 groups, each of which clocks in two halves of a byte with the
backlight as it is to be, and the groups make these words: the address of the upper row, its sixteen
cells, the address of the lower row, and its cells. So the grid and the backlight can be read back, and
different ones have different frames.
-/
theorem frame_round_trip :
    (∀ (grid : Text.Grid) (lit : Bool), ∃ payload : Payload,
      (∀ engine : Engine, ∃ after, engine.load (frame grid lit) = .ok after ∧
        after.payload = payload ∧ after = engine.setPayload payload) ∧
      payload.length = 204 ∧
      ∃ groups : List Group, groups.length = 34 ∧ payload.bytes = groups.flatMap Group.bytes ∧
        (∀ group ∈ groups, group.Clocks lit) ∧
        groups.map Group.word =
          .instruction 0x80 :: grid.rows[0].toList.map .cell ++
            .instruction 0xc0 :: grid.rows[1].toList.map .cell ∧
        readFrame payload.bytes = (grid, lit)) ∧
    ∀ (grid grid' : Text.Grid) (lit lit' : Bool),
      (frame grid lit).flatten = (frame grid' lit').flatten ↔ grid = grid' ∧ lit = lit' := by
  constructor
  · intro grid lit
    obtain ⟨groups, bytes, clocks, words⟩ := Spells.frame grid lit
    refine ⟨framePayload grid lit,
      fun engine => ⟨_, engine.load_eq (framePayload grid lit) rfl, rfl, rfl⟩,
      length_flatten_frame grid lit, groups, ?_, bytes, clocks, words, readFrame_frame grid lit⟩
    have count := congrArg List.length words
    simp only [List.length_map, List.length_append, List.length_cons, Vector.length_toList] at count
    exact count
  · intro grid grid' lit lit'
    constructor
    · intro equal
      have read := congrArg readFrame equal
      rw [readFrame_frame, readFrame_frame] at read
      exact Prod.mk.inj read
    · rintro ⟨rfl, rfl⟩
      rfl

/-- A greeting on the upper row. -/
def greeting : Text.Grid := Text.Grid.empty.write 0 0 16 "HELLO"

/-- It is read back from its frame, which is not that of the empty grid. -/
theorem frame_round_trip_greeting : ∃ payload : Payload,
    (∀ engine : Engine, ∃ after, engine.load (frame greeting true) = .ok after ∧
      after.payload = payload ∧ after = engine.setPayload payload) ∧
    readFrame payload.bytes = (greeting, true) ∧
    (frame greeting true).flatten ≠ (frame .empty true).flatten := by
  obtain ⟨round, told⟩ := frame_round_trip
  obtain ⟨payload, loads, _, _, _, _, _, _, read⟩ := round greeting true
  refine ⟨payload, loads, read, ?_⟩
  rw [ne_eq, told]
  decide +kernel

end StatusDisplay.Lcd
