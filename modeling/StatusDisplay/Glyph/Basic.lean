import StatusDisplay.Glyph.Typeface

/-!
# Glyphs

A glyph is a character drawn sixteen pixels high, its cell centred vertically, and cut into two
pages of eight pixel rows. A page is a byte per column, its topmost pixel in the lowest bit, which
is the order in which the bitmap panel stores its memory. Bytes that are not printable are drawn
as a full stop.
-/

namespace StatusDisplay.Glyph

/-- Height of every glyph in pixels. -/
def height : Nat := 16

/-- Pixel rows in a page. -/
def pageHeight : Nat := 8

/-- Width of the widest font in pixels. -/
def maxWidth : Nat := 8

/-- The fonts to choose from. -/
inductive Font where
  /-- Seven pixels wide; a row of text leaves blank columns at the right edge. -/
  | narrow
  /-- Eight pixels wide; a row of text fills the panel. -/
  | wide
  deriving DecidableEq, Repr, Inhabited

/-- The typeface that a font draws from. -/
def Font.typeface : Font → Typeface
  | .narrow => .narrow
  | .wide => .wide

/-- Glyph width in pixels. -/
def Font.width (font : Font) : Nat := font.typeface.width

/-- The first character of a typeface, the space. -/
def firstChar : Nat := 0x20

/-- The entry of the full stop, which stands in for every byte that is not printable. -/
def fallback : Fin charCount := ⟨0x2e - firstChar, by decide⟩

/-- The typeface entry that draws a byte. -/
def entry (byte : UInt8) : Fin charCount :=
  if h : firstChar ≤ byte.toNat ∧ byte.toNat - firstChar < charCount then
    ⟨byte.toNat - firstChar, h.2⟩
  else fallback

/-- Rows left blank above a cell that is centred in the glyph. -/
def Font.margin (font : Font) : Nat := (height - font.typeface.height) / 2

/-- Whether pixel (`x`, `y`) of the glyph for `byte` is lit. -/
def Font.lit (font : Font) (byte : UInt8) (x y : Nat) : Bool :=
  font.margin ≤ y && font.typeface.pixel (entry byte) x (y - font.margin)

/-- Eight pixels as a byte, pixel `n` in bit `n`. -/
def columnByte (pixel : Nat → Bool) : UInt8 :=
  (List.range pageHeight).foldr (fun y above => above <<< 1 ||| (pixel y).toUInt8) 0

/-- The column bytes of one page of a glyph, from left to right; page 0 is the upper one. -/
def Font.page (font : Font) (byte : UInt8) (page : Nat) : List UInt8 :=
  (List.range font.width).map fun x => columnByte fun y => font.lit byte x (pageHeight * page + y)

@[simp] theorem Font.length_page (font : Font) (byte : UInt8) (page : Nat) :
    (font.page byte page).length = font.width := by
  simp [Font.page]

theorem Font.width_le (font : Font) : font.width ≤ maxWidth := by
  cases font <;> decide

end StatusDisplay.Glyph
