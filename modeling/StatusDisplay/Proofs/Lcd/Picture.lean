import StatusDisplay.Proofs.Lcd.Receiver

/-!
# What a character display shows

The handshake brings the link into four-bit width with nothing waiting, whatever was going on before
it (`Link.run_handshake`): its first byte leaves nothing of the byte before it, and eleven more wear
out every width. From there on each byte of the driver comes out as one order or one cell (`Says`),
so the setup and a frame are read as they were meant, and a frame puts every cell in its place.
-/

namespace StatusDisplay.Lcd

/-- The bytes of the handshake. -/
def handshakeBytes : List UInt8 := handshake.flatMap (strobe ·.value)

/-! ## Halves and signals -/

theorem dataLines_or (a b : UInt8) : dataLines (a ||| b) = dataLines a ||| dataLines b := by
  unfold dataLines
  rw [UInt8.toBitVec_or, BitVec.extractLsb'_or]

theorem dataLines_and (a b : UInt8) : dataLines (a &&& b) = dataLines a &&& dataLines b := by
  unfold dataLines
  rw [UInt8.toBitVec_and, BitVec.extractLsb'_and]

/-- The high half comes first, so it is what stays when the low one is cut off. -/
theorem dataLines_high (value : UInt8) : dataLines (value &&& 0xf0) = dataLines value := by
  rw [dataLines_and]
  exact BitVec.and_allOnes

theorem dataLines_shiftLeft (value : UInt8) :
    dataLines (value <<< 4) = value.toBitVec.extractLsb' 0 4 := by
  apply BitVec.eq_of_getLsbD_eq
  intro i hi
  have inside : 4 + i < 8 ∧ ¬ 4 + i < 4 := by omega
  simp [dataLines, hi, inside]
  exact (BitVec.getLsbD_eq_getElem _).symm

/-- The two halves of a byte make it again. -/
theorem joinHalves_eq (value : UInt8) :
    joinHalves (dataLines value) (dataLines (value <<< 4)) = value := by
  have adjacent : value.toBitVec.extractLsb' 4 4 ++ value.toBitVec.extractLsb' 0 4 =
      value.toBitVec.extractLsb' 0 8 :=
    BitVec.extractLsb'_append_extractLsb'_eq_extractLsb' (Nat.zero_add 4).symm
  rw [dataLines_shiftLeft]
  exact UInt8.toBitVec_inj.1 (adjacent.trans BitVec.extractLsb'_eq_self)

/-- Signals that leave the data lines and the strobe to others. -/
structure Signals (signals : UInt8) : Prop where
  lines : dataLines signals = 0
  strobe : strobeLine signals = false

theorem Signals.dataLines_high {signals : UInt8} (apart : Signals signals) (value : UInt8) :
    dataLines (value &&& 0xf0 ||| signals) = dataLines value := by
  rw [dataLines_or, Lcd.dataLines_high, apart.lines]
  exact BitVec.or_zero

theorem Signals.dataLines_low {signals : UInt8} (apart : Signals signals) (value : UInt8) :
    dataLines (value <<< 4 ||| signals) = dataLines (value <<< 4) := by
  rw [dataLines_or, apart.lines]
  exact BitVec.or_zero

theorem signals_instruction (lit : Bool) : Signals (backlightSignal lit) := by
  cases lit <;> exact ⟨rfl, rfl⟩

theorem signals_cell (lit : Bool) : Signals (registerBit ||| backlightSignal lit) := by
  cases lit <;> exact ⟨rfl, rfl⟩

/-! ## Strobes and bytes -/

namespace Link

/-- Nothing is waiting: the width is four, the strobe is down, and no half byte has come. -/
structure Settled (link : Link) : Prop where
  width : link.width = .four none
  strobe : strobeLine link.last = false

/-- A strobe latches its half byte once. -/
theorem run_strobe (link : Link) (value : UInt8) (before : strobeLine link.last = false)
    (during : strobeLine value = false) :
    link.run (strobe value) =
      (⟨value, (link.width.latch (dataLines value) (registerLine value)).1⟩,
        (link.width.latch (dataLines value) (registerLine value)).2.toList) := by
  have raised : strobeLine (value ||| enableBit) = true := by
    simp [strobeLine, enableBit]
  have lines : dataLines (value ||| enableBit) = dataLines value := by
    rw [dataLines_or]
    exact BitVec.or_zero
  have register : registerLine (value ||| enableBit) = registerLine value := by
    simp [registerLine, enableBit]
  have falls := receive_of_falling ⟨value ||| enableBit, link.width⟩ value raised during
  simp only [lines, register] at falls
  unfold strobe
  rw [run_cons, receive_of_low _ _ before, run_cons, receive_of_raised _ _ raised, run_cons, falls]
  simp

end Link

/-- Bytes that take a settled link to a settled link, and out of which `received` comes. -/
def Says (bytes : List UInt8) (received : List Received) : Prop :=
  ∀ link : Link, link.Settled → ∃ next : Link, next.Settled ∧ link.run bytes = (next, received)

namespace Says

variable {bytes more : List UInt8} {received rest : List Received}

theorem nil : Says [] [] := fun link settled => ⟨link, settled, rfl⟩

theorem append (h : Says bytes received) (h' : Says more rest) :
    Says (bytes ++ more) (received ++ rest) := by
  intro link settled
  obtain ⟨middle, settled, first⟩ := h link settled
  obtain ⟨next, settled, second⟩ := h' middle settled
  refine ⟨next, settled, ?_⟩
  rw [Link.run_append, first, second]

/-- A byte for each of `values`, in their order. -/
theorem flatMap {α : Type} {chunks : α → List Chunk} {told : α → Received} (values : List α)
    (h : ∀ value, Says (chunks value).flatten [told value]) :
    Says (values.flatMap chunks).flatten (values.map told) := by
  induction values with
  | nil => exact nil
  | cons value values ih =>
    rw [List.flatMap_cons, List.flatten_append]
    exact (h value).append ih

/-- The halves of a byte are put together again; the register line tells what the byte is. -/
theorem byte {value signals : UInt8} {told : Received} (apart : Signals signals)
    (latched : Width.latch (.four (some (dataLines value))) (dataLines (value <<< 4))
      (registerLine signals) = (.four none, some told)) :
    Says (Lcd.byte value signals).flatten [told] := by
  intro link settled
  have highStrobe : strobeLine (value &&& 0xf0 ||| signals) = false := by
    have low := apart.strobe
    simp only [strobeLine] at low
    simp [strobeLine, low]
  have lowStrobe : strobeLine (value <<< 4 ||| signals) = false := by
    have low := apart.strobe
    simp only [strobeLine] at low
    simp [strobeLine, low]
  have register : registerLine (value <<< 4 ||| signals) = registerLine signals := by
    simp [registerLine]
  refine ⟨⟨value <<< 4 ||| signals, .four none⟩, ⟨rfl, lowStrobe⟩, ?_⟩
  have halves : (Lcd.byte value signals).flatten =
      strobe (value &&& 0xf0 ||| signals) ++ strobe (value <<< 4 ||| signals) := rfl
  rw [halves, Link.run_append, Link.run_strobe _ _ settled.strobe highStrobe, settled.width,
    apart.dataLines_high]
  have second := Link.run_strobe ⟨_, .four (some (dataLines value))⟩ _ highStrobe lowStrobe
  rw [apart.dataLines_low, register, latched] at second
  exact congrArg (fun result : Link × List Received => (result.1, [] ++ result.2)) second

/-- A byte with the register line up is a cell. -/
theorem cell (value : UInt8) (lit : Bool) :
    Says (Lcd.byte value (registerBit ||| backlightSignal lit)).flatten [.cell value] := by
  apply byte (signals_cell lit)
  have register : registerLine (registerBit ||| backlightSignal lit) = true := by
    cases lit <;> rfl
  rw [register, Width.latch, joinHalves_eq]

/-- A byte with the register line down is an instruction. -/
theorem instruction (code : UInt8) (lit : Bool)
    (narrow : Width.after (.four none) (.ofCode code) = .four none) :
    Says (Lcd.byte code (backlightSignal lit)).flatten [.order (.ofCode code)] := by
  apply byte (signals_instruction lit)
  have register : registerLine (backlightSignal lit) = false := by
    cases lit <;> rfl
  rw [register, Width.latch, joinHalves_eq]
  simp only [narrow]

end Says

/-! ## What the driver says -/

/-- What the setup tells the display. -/
def setupOrders : List Order :=
  [.setFunction false true, .setDisplay false false false, .setEntry true false,
    .setDisplay true false false]

theorem says_setup (lit : Bool) : Says (setup lit).flatten (setupOrders.map .order) := by
  have codes : setupOrders = setupInstructions.map Order.ofCode := rfl
  have narrow : ∀ code ∈ setupInstructions,
      Width.after (.four none) (.ofCode code) = .four none := by decide +kernel
  rw [codes, List.map_map]
  unfold setup
  generalize setupInstructions = instructions at narrow
  induction instructions with
  | nil => exact .nil
  | cons code codes ih =>
    obtain ⟨first, rest⟩ := List.forall_mem_cons.1 narrow
    rw [List.flatMap_cons, List.flatten_append]
    exact (Says.instruction code lit first).append (ih rest)

/-- A row of cells behind the order that selects its first cell. -/
def rowReceived (address : BitVec 7) (cells : Text.Row) : List Received :=
  .order (.selectCell address) :: cells.toList.map .cell

/-- The cell at the left end of each row. -/
def upperStart : BitVec 7 := 0x00

def lowerStart : BitVec 7 := 0x40

theorem says_row {address : UInt8} {start : BitVec 7}
    (selects : Order.ofCode (Instruction.setAddress ||| address) = .selectCell start)
    (cells : Text.Row) (lit : Bool) :
    Says (rowChunks address cells lit).flatten (rowReceived start cells) := by
  have select := Says.instruction (Instruction.setAddress ||| address) lit (by rw [selects]; rfl)
  rw [selects] at select
  rw [rowChunks, List.flatten_append]
  exact select.append (.flatMap _ fun value => .cell value lit)

theorem frame_eq (grid : Text.Grid) (lit : Bool) :
    frame grid lit = rowChunks 0x00 grid.rows[0] lit ++ rowChunks 0x40 grid.rows[1] lit := by
  have rows : (rowAddress.zip grid.rows).toList =
      [((0x00 : UInt8), grid.rows[0]), (0x40, grid.rows[1])] := by
    apply List.ext_getElem
    · rw [Vector.length_toList]
      rfl
    · intro i inside _
      rw [Vector.length_toList, Text.rowCount] at inside
      rw [Vector.getElem_toList, Vector.getElem_zip]
      match i, inside with
      | 0, _ => rfl
      | 1, _ => rfl
  rw [frame, rows]
  simp

theorem says_frame (grid : Text.Grid) (lit : Bool) :
    Says (frame grid lit).flatten
      (rowReceived upperStart grid.rows[0] ++ rowReceived lowerStart grid.rows[1]) := by
  rw [frame_eq, List.flatten_append]
  exact (says_row rfl _ lit).append (says_row rfl _ lit)

/-! ## The handshake -/

/--
**The handshake settles every link.** Its first byte has the strobe down, so whatever the byte
before it left unfinished is latched then, and only the width is still open.
-/
theorem Link.run_handshake (link : Link) : (link.run handshakeBytes).1.Settled := by
  have first : (link.receive 0x30).1 = ⟨0x30, (link.receive 0x30).1.width⟩ := by
    unfold receive
    split <;> rfl
  have rest (width : Width) :
      ((⟨0x30, width⟩ : Link).run handshakeBytes.tail).1 = ⟨0x20, .four none⟩ := by
    cases width with
    | eight => rfl
    | four high =>
      cases high with
      | none => rfl
      | some high => revert high; decide
  have final : (link.run handshakeBytes).1 = ⟨0x20, .four none⟩ :=
    (congrArg (fun next : Link => (next.run handshakeBytes.tail).1) first).trans (rest _)
  rw [final]
  exact ⟨rfl, rfl⟩

end StatusDisplay.Lcd
