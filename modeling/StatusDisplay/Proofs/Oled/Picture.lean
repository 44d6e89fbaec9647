import Mathlib.Data.List.GetD
import StatusDisplay.Engine.Basic
import StatusDisplay.Proofs.Oled.Receiver
import StatusDisplay.Proofs.Payloads

/-!
# What a bitmap panel shows

The commands of an opening select the whole window, so the pixel data that follows fills the upper
four pages from corner to corner and leaves the pointers where it began (`Receiver.foldl_takeData`).
Each page is made of columns of equal width, so a division finds the glyph that a column belongs
to (`getElem?_pageChunks`), and a page's byte holds one pixel of that glyph in each bit. Together a
transaction paints the text (`paints_text`).
-/

namespace StatusDisplay.Oled

/-! ## Filling the memory -/

/-- Place of a byte of memory when pages are counted through, one after the other. -/
def offset (page : BitVec 3) (column : BitVec 7) : Nat := width * page.toNat + column.toNat

/-- The place at which the pointers stand, if they are in the window of the upper four pages. -/
theorem offset_eq_iff {page : BitVec 3} {column : BitVec 7} {place : Nat} (inside : place < 512) :
    offset page column = place ↔ page = .ofNat 3 (place / width % 4) ∧ column = .ofNat 7 place := by
  rw [offset, width]
  constructor
  · intro here
    constructor <;> bv_omega
  · rintro ⟨onPage, inColumn⟩
    bv_omega

/-- The memory with `data` laid over it from the place `start` on. -/
def fill (memory : BitVec 3 → BitVec 7 → UInt8) (start : Nat) (data : List UInt8) :
    BitVec 3 → BitVec 7 → UInt8 :=
  fun page column =>
    if offset page column < start then memory page column
    else data.getD (offset page column - start) (memory page column)

theorem fill_nil (memory : BitVec 3 → BitVec 7 → UInt8) (start : Nat) :
    fill memory start [] = memory := by
  funext page column
  exact ite_self _

/-- The first byte, and then the others from the next place on. -/
theorem fill_cons (memory : BitVec 3 → BitVec 7 → UInt8) {start : Nat} (byte : UInt8)
    (data : List UInt8) (inside : start < 512) :
    fill (fun page column =>
        if page = .ofNat 3 (start / width % 4) ∧ column = .ofNat 7 start then byte
        else memory page column) (start + 1) data =
      fill memory start (byte :: data) := by
  funext page column
  simp only [fill, ← offset_eq_iff inside]
  rcases Nat.lt_trichotomy (offset page column) start with before | here | behind
  · rw [if_pos (by omega), if_neg (by omega), if_pos before]
  · rw [if_pos (by omega), if_pos here, if_neg (by omega), here, Nat.sub_self,
      List.getD_cons_zero]
  · have further : offset page column - start = offset page column - (start + 1) + 1 := by omega
    rw [if_neg (by omega), if_neg (by omega), if_neg (by omega), further, List.getD_cons_succ]

/-- The columns of the window, one after the other. -/
theorem next_column (place : Nat) :
    (⟨0, 127⟩ : Span 7).next (.ofNat 7 place) = .ofNat 7 (place + 1) := by
  unfold Span.next
  split <;> bv_omega

/-- The page changes behind the last column. -/
theorem next_page (place : Nat) :
    (if BitVec.ofNat 7 place = 127 then (⟨0, 3⟩ : Span 3).next (.ofNat 3 (place / width % 4))
      else .ofNat 3 (place / width % 4)) = .ofNat 3 ((place + 1) / width % 4) := by
  unfold Span.next width
  split
  · split <;> bv_omega
  · bv_omega

/-- The whole window is selected, and pixel data goes through it row by row. -/
structure Receiver.Windowed (panel : Receiver) : Prop where
  filling : panel.filling = .horizontal
  columns : panel.columns = ⟨0, 127⟩
  pages : panel.pages = ⟨0, 3⟩

/-- Pixel data fills the window place by place, and behind the last place begins anew. -/
theorem Receiver.foldl_takeData (panel : Receiver) (windowed : panel.Windowed) (start : Nat)
    (data : List UInt8) (fits : start + data.length ≤ 512)
    (column : panel.column = .ofNat 7 start) (page : panel.page = .ofNat 3 (start / width % 4)) :
    data.foldl takeData panel =
      { panel with
        memory := fill panel.memory start data
        column := .ofNat 7 (start + data.length)
        page := .ofNat 3 ((start + data.length) / width % 4) } := by
  induction data generalizing panel start with
  | nil =>
    rw [fill_nil, List.length_nil, Nat.add_zero, ← column, ← page]
    rfl
  | cons byte data ih =>
    rw [List.length_cons] at fits
    have taken : panel.takeData byte =
        { panel with
          memory := fun page column =>
            if page = .ofNat 3 (start / width % 4) ∧ column = .ofNat 7 start then byte
            else panel.memory page column
          column := .ofNat 7 (start + 1)
          page := .ofNat 3 ((start + 1) / width % 4) } := by
      rw [← next_page, ← next_column]
      simp only [takeData, advance, put, windowed.filling, windowed.columns, windowed.pages, column,
        page]
    have rest := ih (panel.takeData byte)
      (by rw [taken]; exact ⟨windowed.filling, windowed.columns, windowed.pages⟩) (start + 1)
      (by omega) (by rw [taken]) (by rw [taken])
    have length : start + 1 + data.length = start + (data.length + 1) := by omega
    rw [List.foldl_cons, rest, taken]
    simp only [fill_cons _ _ _ (by omega : start < 512), length, List.length_cons]

/-! ## Bits of a column -/

/-- Bits stacked on one another, the first one lowest. -/
def stack (bits : List Bool) : UInt8 := bits.foldr (fun bit above => above <<< 1 ||| bit.toUInt8) 0

theorem getLsbD_stack (bits : List Bool) (fits : bits.length ≤ 8) {i : Nat}
    (inside : i < bits.length) : (stack bits).toBitVec.getLsbD i = bits[i] := by
  induction bits generalizing i with
  | nil => cases inside
  | cons bit bits ih =>
    rw [List.length_cons] at fits inside
    have grown : stack (bit :: bits) = stack bits <<< 1 ||| bit.toUInt8 := rfl
    rw [grown, UInt8.toBitVec_or, BitVec.getLsbD_or, UInt8.toBitVec_shiftLeft]
    cases i with
    | zero => cases bit <;> simp
    | succ i =>
      have further := ih (by omega) (Nat.lt_of_succ_lt_succ inside)
      have low : bit.toUInt8.toBitVec.getLsbD (i + 1) = false := by
        cases bit <;> simp [Bool.toUInt8]
      have place : i + 1 < 8 := by omega
      rw [low, Bool.or_false, List.getElem_cons_succ, ← further,
        BitVec.getLsbD_eq_getElem (by omega : i < 8)]
      simp [place]

/-- A column's byte holds its pixels, the topmost in the lowest bit. -/
theorem getLsbD_columnByte (pixel : Nat → Bool) {y : Nat} (inside : y < Glyph.pageHeight) :
    (Glyph.columnByte pixel).toBitVec.getLsbD y = pixel y := by
  have stacked : Glyph.columnByte pixel = stack ((List.range Glyph.pageHeight).map pixel) := by
    rw [stack, List.foldr_map]
    rfl
  have length : ((List.range Glyph.pageHeight).map pixel).length = Glyph.pageHeight := by simp
  rw [stacked, getLsbD_stack _ (by rw [length]; decide) (by rw [length]; exact inside)]
  simp

/-! ## Columns of a page -/

/-- Where blocks have equal width, a division finds the block that an element lies in. -/
theorem getElem?_flatten_uniform {α : Type} {blocks : List (List α)} {size : Nat}
    (uniform : ∀ block ∈ blocks, block.length = size) (positive : 0 < size) (i : Nat) :
    blocks.flatten[i]? = blocks[i / size]?.bind fun block => block[i % size]? := by
  induction blocks generalizing i with
  | nil => rfl
  | cons block blocks ih =>
    obtain ⟨length, rest⟩ := List.forall_mem_cons.1 uniform
    rw [List.flatten_cons]
    by_cases within : i < size
    · rw [List.getElem?_append_left (by omega), Nat.div_eq_of_lt within, Nat.mod_eq_of_lt within]
      rfl
    · obtain ⟨further, rfl⟩ : ∃ further, i = further + size := ⟨i - size, by omega⟩
      rw [List.getElem?_append_right (by omega), length, Nat.add_sub_cancel, ih rest,
        Nat.add_div_right _ positive, Nat.add_mod_right, List.getElem?_cons_succ]

/-- The pixels of column `x` in a page of a row of cells; blank beyond the last glyph. -/
def columnPixel (font : Glyph.Font) (cells : Text.Row) (page x y : Nat) : Bool :=
  if h : x / font.width < Text.columnCount then
    font.lit cells[x / font.width] (x % font.width) (Glyph.pageHeight * page + y)
  else false

theorem font_width_pos (font : Glyph.Font) : 0 < font.width := by
  cases font <;> decide

/-- Every column of a page is made of its own pixels. -/
theorem getElem?_pageChunks (font : Glyph.Font) (cells : Text.Row) (page : Nat) {x : Nat}
    (inside : x < width) :
    (pageChunks font cells page).flatten[x]? =
      some (Glyph.columnByte (columnPixel font cells page x)) := by
  have uniform : ∀ glyph ∈ cells.toList.map (font.page · page), glyph.length = font.width := by
    intro glyph mem
    obtain ⟨byte, _, rfl⟩ := List.mem_map.1 mem
    exact font.length_page byte page
  have glyphs := getElem?_flatten_uniform uniform (font_width_pos font) x
  have length : (cells.toList.map (font.page · page)).flatten.length =
      Text.columnCount * font.width := by
    simp [List.length_flatten, Function.comp_def, List.map_const']
  have fits : Text.columnCount * font.width ≤ width := by
    cases font <;> decide
  rw [pageChunks, List.flatten_append]
  by_cases glyph : x / font.width < Text.columnCount
  · have before : x < Text.columnCount * font.width :=
      (Nat.div_lt_iff_lt_mul (font_width_pos font)).1 glyph
    have drawn : columnPixel font cells page x = fun y =>
        font.lit cells[x / font.width] (x % font.width) (Glyph.pageHeight * page + y) := by
      funext y
      rw [columnPixel, dif_pos glyph]
    rw [List.getElem?_append_left (by rw [length]; exact before), glyphs, drawn]
    simp [Glyph.Font.page, glyph, Nat.mod_lt x (font_width_pos font)]
  · have behind : Text.columnCount * font.width ≤ x :=
      Nat.le_of_not_lt fun before => glyph ((Nat.div_lt_iff_lt_mul (font_width_pos font)).2 before)
    have blank : columnPixel font cells page x = fun _ => false := by
      funext y
      rw [columnPixel, dif_neg glyph]
    rw [List.getElem?_append_right (by rw [length]; exact behind), length, blank]
    have zero : Glyph.columnByte (fun _ => false) = 0 := rfl
    have place : x - Text.columnCount * font.width < width - Text.columnCount * font.width := by
      omega
    simp [zero, place]

/-! ## The text -/

/-- Pixel (`x`, `y`) of the text: that of its glyph, and blank beyond the last glyph of a row. -/
def textPixel (font : Glyph.Font) (grid : Text.Grid) (x y : Nat) : Bool :=
  if row : y / Glyph.height < Text.rowCount then
    if cell : x / font.width < Text.columnCount then
      font.lit grid.rows[y / Glyph.height][x / font.width] (x % font.width) (y % Glyph.height)
    else false
  else false

/-- The pixel data of both rows. -/
def pixelData (font : Glyph.Font) (upper lower : Text.Row) : List UInt8 :=
  (rowChunks font upper).flatten ++ (rowChunks font lower).flatten

theorem length_pixelData (font : Glyph.Font) (upper lower : Text.Row) :
    (pixelData font upper lower).length = 512 := by
  rw [pixelData, List.length_append, length_flatten_rowChunks, length_flatten_rowChunks]
  rfl

/-- Both rows are four pages one after the other, each as wide as the panel. -/
theorem getElem?_pixelData (font : Glyph.Font) (grid : Text.Grid) {page x : Nat}
    (row : page / 2 < Text.rowCount) (inside : x < width) :
    (pixelData font grid.rows[0] grid.rows[1])[width * page + x]? =
      some (Glyph.columnByte (columnPixel font grid.rows[page / 2] (page % 2) x)) := by
  let pages : List (List UInt8) :=
    [(pageChunks font grid.rows[0] 0).flatten, (pageChunks font grid.rows[0] 1).flatten,
      (pageChunks font grid.rows[1] 0).flatten, (pageChunks font grid.rows[1] 1).flatten]
  have whole : pixelData font grid.rows[0] grid.rows[1] = pages.flatten := by
    simp [pages, pixelData, rowChunks]
  have uniform : ∀ page ∈ pages, page.length = width := by
    simp only [pages, List.mem_cons, List.not_mem_nil, or_false, forall_eq_or_imp, forall_eq,
      length_flatten_pageChunks, and_self]
  have onPage : pages[page]? = some (pageChunks font grid.rows[page / 2] (page % 2)).flatten := by
    have onPanel : page < 4 := by
      rw [Text.rowCount] at row
      omega
    obtain rfl | rfl | rfl | rfl : page = 0 ∨ page = 1 ∨ page = 2 ∨ page = 3 := by omega
    all_goals rfl
  have quotient : (width * page + x) / width = page := by
    rw [Nat.mul_add_div (by decide), Nat.div_eq_of_lt inside, Nat.add_zero]
  have remainder : (width * page + x) % width = x := by
    rw [Nat.mul_add_mod, Nat.mod_eq_of_lt inside]
  rw [whole, getElem?_flatten_uniform uniform (by decide), quotient, remainder, onPage]
  exact getElem?_pageChunks font _ _ inside

/-- The pixels of a page are those of the text. -/
theorem columnPixel_eq (font : Glyph.Font) (grid : Text.Grid) (x : Nat) {y : Nat}
    (row : y / Glyph.pageHeight / 2 < Text.rowCount) :
    columnPixel font grid.rows[y / Glyph.pageHeight / 2] (y / Glyph.pageHeight % 2) x
      (y % Glyph.pageHeight) = textPixel font grid x y := by
  have inRow : y / Glyph.pageHeight / 2 = y / Glyph.height := Nat.div_div_eq_div_mul _ _ _
  have inGlyph : Glyph.pageHeight * (y / Glyph.pageHeight % 2) + y % Glyph.pageHeight =
      y % Glyph.height := by
    rw [Glyph.pageHeight, Glyph.height]
    omega
  simp only [columnPixel, textPixel, inGlyph, inRow]
  rw [inRow] at row
  rw [dif_pos row]

/-! ## A transaction -/

/-- The commands that a transaction starts with, behind those for power-on where they are wanted. -/
def openingCommands (setup : Option Panel) (lit : Bool) : List UInt8 :=
  setup.elim [] Panel.powerOnCommands ++ addressWindow ++ [powerCommand lit]

/-- What a transaction leaves behind on a panel that stood at `before`. -/
structure Receiver.Painted (before after : Receiver) (font : Glyph.Font) (grid : Text.Grid)
    (lit : Bool) : Prop where
  text : ∀ x < width, ∀ y < 32, after.pixel x y = textPixel font grid x y
  beside : ∀ page column, 4 ≤ page.toNat → after.memory page column = before.memory page column
  power : after.on = lit
  windowed : after.Windowed
  /-- Ready for the next transaction, at the first place again. -/
  column : after.column = 0
  page : after.page = 0
  pending : after.pending = []

namespace Receiver

/-- The commands of an opening, each with its arguments. -/
def openingScript (setup : Option Panel) (lit : Bool) : List (UInt8 × List UInt8) :=
  setup.elim [] (fun panel =>
    [(Command.clockDivide, [0x80]), (Command.multiplexRatio, [panel.multiplex]),
      (Command.displayOffset, [0x00]), (Command.startLine, []), (Command.chargePump, [0x14]),
      (Command.segmentRemap, []), (Command.scanDescending, []),
      (Command.commonPins, [panel.commonPins]), (Command.contrast, [panel.contrast]),
      (Command.precharge, [0xf1]), (Command.deselectLevel, [0x20]), (Command.showMemory, []),
      (Command.notInverted, []), (Command.scrollOff, [])]) ++
    [(Command.memoryMode, [0]), (Command.columnWindow, [0, 127]), (Command.pageWindow, [0, 3]),
      (powerCommand lit, [])]

/-- The commands select the window and its first place, whatever was selected before. -/
theorem foldl_commands {panel : Receiver} (whole : panel.pending = []) (setup : Option Panel)
    (lit : Bool) :
    (openingCommands setup lit).foldl takeCommand panel =
      { panel with
        columns := ⟨0, 127⟩, pages := ⟨0, 3⟩, column := 0, page := 0, filling := .horizontal
        on := lit } := by
  have script : openingCommands setup lit =
      (openingScript setup lit).flatMap fun command => command.1 :: command.2 := by
    rcases setup with _ | panel
    · rfl
    · rfl
  have counts : ∀ command ∈ openingScript setup lit,
      argumentCount command.1 = command.2.length := by
    rcases setup with _ | panel
    · cases lit <;> decide
    · cases lit <;> cases panel <;> decide
  rw [script, foldl_script whole counts]
  rcases setup with _ | panel
  · cases lit <;> rfl
  · cases lit <;> cases panel <;> rfl

/-- Commands and the pixel data of both rows paint the text. -/
theorem painted {panel : Receiver} (whole : panel.pending = []) (font : Glyph.Font)
    (grid : Text.Grid) (setup : Option Panel) (lit : Bool) :
    panel.Painted ((pixelData font grid.rows[0] grid.rows[1]).foldl takeData
      ((openingCommands setup lit).foldl takeCommand panel)) font grid lit := by
  have selected := foldl_commands whole setup lit
  have fits : 0 + (pixelData font grid.rows[0] grid.rows[1]).length ≤ 512 := by
    have length := length_pixelData font grid.rows[0] grid.rows[1]
    omega
  have filled := ((openingCommands setup lit).foldl takeCommand panel).foldl_takeData
    (by rw [selected]; exact ⟨rfl, rfl, rfl⟩) 0 (pixelData font grid.rows[0] grid.rows[1]) fits
    (by rw [selected]; rfl) (by rw [selected]; rfl)
  rw [length_pixelData, selected] at filled
  rw [selected, filled]
  refine ⟨?_, ?_, rfl, ⟨rfl, rfl, rfl⟩, rfl, rfl, whole⟩
  · intro x hx y hy
    have row : y / Glyph.pageHeight / 2 < Text.rowCount := by
      rw [Glyph.pageHeight, Text.rowCount]
      omega
    have place : offset (.ofNat 3 (y / Glyph.pageHeight)) (.ofNat 7 x) =
        width * (y / Glyph.pageHeight) + x := by
      rw [width] at hx
      rw [offset, width, Glyph.pageHeight]
      bv_omega
    have byte := getElem?_pixelData font grid row hx
    simp only [pixel, fill, place, Nat.not_lt_zero, if_false, Nat.sub_zero,
      List.getD_eq_getElem?_getD, byte, Option.getD_some]
    rw [getLsbD_columnByte _ (Nat.mod_lt y (by decide)), columnPixel_eq font grid x row]
  · intro page column below
    have past : (pixelData font grid.rows[0] grid.rows[1]).length ≤ offset page column := by
      rw [length_pixelData, offset, width]
      omega
    exact List.getD_eq_default _ _ past

end Receiver

/-- A transaction is decoded to its commands and the pixel data behind them. -/
theorem decode_transaction (setup : Option Panel) (lit : Bool) (upper lower : List UInt8) :
    decode ((commandChunks (setup.elim [] Panel.powerOnCommands)).flatten ++
        (opening lit).flatten ++ upper ++ lower) =
      some (openingCommands setup lit, upper ++ lower) := by
  have opened : (opening lit).flatten ++ upper ++ lower =
      (commandChunks (addressWindow ++ [powerCommand lit])).flatten ++
        (dataMarker :: (upper ++ lower)) := by
    simp [opening, commandChunks]
  rw [List.append_assoc, List.append_assoc, ← List.append_assoc _ upper, opened, decode_commands,
    decode_commands, decode_data]
  simp [openingCommands]

/-- A panel that was left in the middle of something else, with every pixel lit. -/
def litPanel : Receiver where
  memory := fun _ _ => 0xff
  columns := ⟨5, 9⟩
  pages := ⟨2, 7⟩
  column := 8
  page := 6
  filling := .vertical
  on := false
  pending := []

end StatusDisplay.Oled
