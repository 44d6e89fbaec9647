/-!
# Typefaces

Two fixed-width typefaces for the printable characters, space to tilde. Each character is a cell
of pixel rows, packed into one number: a byte for each row, the top row in the most significant
byte, and the leftmost pixel of a row in its most significant bit.
-/

namespace StatusDisplay.Glyph

/-- Characters in a typeface, from the space to the tilde. -/
def charCount : Nat := 95

/-- A fixed-width typeface: the size of its cells in pixels, and a packed cell per character. -/
structure Typeface where
  width : Nat
  height : Nat
  cells : Vector Nat charCount

/--
Whether the pixel in column `x` of row `y` of a character's cell is lit. Nothing is lit below the
cell's last row.
-/
def Typeface.pixel (face : Typeface) (char : Fin charCount) (x y : Nat) : Bool :=
  y < face.height && face.cells[char].testBit (8 * (face.height - 1 - y) + (7 - x))

/-- Cells of eight by thirteen pixels. -/
def Typeface.wide : Typeface where
  width := 8
  height := 13
  cells := #v[
    0x00000000000000000000000000, 0x00001010101010101000100000,
    0x00002424240000000000000000, 0x00000024247e247e2424000000,
    0x0000103c505038141478100000, 0x0000225224080810242a440000,
    0x00000000304848304a443a0000, 0x00001010100000000000000000,
    0x00000408081010100808040000, 0x00002010100808081010200000,
    0x000024187e1824000000000000, 0x0000000010107c101000000000,
    0x00000000000000000038304000, 0x0000000000007c000000000000,
    0x00000000000000000010381000, 0x00000202040810204080800000,
    0x00001824424242424224180000, 0x000010305010101010107c0000,
    0x00003c424202041820407e0000, 0x00007e0204081c0202423c0000,
    0x0000040c142444447e04040000, 0x00007e40405c620202423c0000,
    0x00001c2040405c6242423c0000, 0x00007e02040808101020200000,
    0x00003c4242423c4242423c0000, 0x00003c4242463a020204380000,
    0x00000000103810000010381000, 0x00000000103810000038304000,
    0x00000204081020100804020000, 0x00000000007e00007e00000000,
    0x00004020100804081020400000, 0x00003c42420204080800080000,
    0x00003c42424e52564a403c0000, 0x000018244242427e4242420000,
    0x00007844424478444244780000, 0x00003c424040404040423c0000,
    0x00007844424242424244780000, 0x00007e404040784040407e0000,
    0x00007e40404078404040400000, 0x00003c424040404e42463a0000,
    0x0000424242427e424242420000, 0x00007c101010101010107c0000,
    0x00001f04040404040444380000, 0x00004244485060504844420000,
    0x000040404040404040407e0000, 0x00008282c6aa92928282820000,
    0x0000424262524a464242420000, 0x00003c424242424242423c0000,
    0x00007c4242427c404040400000, 0x00003c4242424242524a3c0200,
    0x00007c4242427c504844420000, 0x00003c4240403c0202423c0000,
    0x0000fe10101010101010100000, 0x000042424242424242423c0000,
    0x00008282444444282828100000, 0x000082828282929292aa440000,
    0x00008282442810284482820000, 0x00008282442810101010100000,
    0x00007e020408102040407e0000, 0x00003c202020202020203c0000,
    0x00008080402010080402020000, 0x00007808080808080808780000,
    0x00001028440000000000000000, 0x0000000000000000000000fe00,
    0x00100800000000000000000000, 0x00000000003c023e42463a0000,
    0x00004040405c624242625c0000, 0x00000000003c424040423c0000,
    0x00000202023a464242463a0000, 0x00000000003c427e40423c0000,
    0x00001c2220207c202020200000, 0x00000000003a444438403c423c,
    0x00004040405c62424242420000, 0x000000100030101010107c0000,
    0x00000004000c04040404444438, 0x00004040404448704844420000,
    0x000030101010101010107c0000, 0x0000000000ec92929292820000,
    0x00000000005c62424242420000, 0x00000000003c424242423c0000,
    0x00000000005c6242625c404040, 0x00000000003a4642463a020202,
    0x00000000005c22202020200000, 0x00000000003c42300c423c0000,
    0x00000020207c202020221c0000, 0x000000000044444444443a0000,
    0x00000000004444442828100000, 0x000000000082829292aa440000,
    0x00000000004224181824420000, 0x0000000000424242463a02423c,
    0x00000000007e040810207e0000, 0x00000e101008300810100e0000,
    0x00001010101010101010100000, 0x0000700808100c100808700000,
    0x00002454480000000000000000]

/-- Cells of seven by fourteen pixels. -/
def Typeface.narrow : Typeface where
  width := 7
  height := 14
  cells := #v[
    0x0000000000000000000000000000, 0x0000101010101010100010100000,
    0x0028282828000000000000000000, 0x00002828287c28287c2828280000,
    0x0000107894945038149494781000, 0x00006494987010203864a4980000,
    0x0000304848483064948898640000, 0x0010101010000000000000000000,
    0x0004081010202020202010100804, 0x0040201010080808080810102040,
    0x0000000010543810385410000000, 0x000000001010107c101010000000,
    0x0000000000000000000030101020, 0x000000000000007c000000000000,
    0x0000000000000000000010381000, 0x0004040808101010202040408080,
    0x0000304884848484848448300000, 0x00001030501010101010107c0000,
    0x0000788484040808102040fc0000, 0x0000fc0408103804048484780000,
    0x000008182828484888fc08080000, 0x0000fc8080f88404048484780000,
    0x000038408080b8c4848484780000, 0x0000fc0408081010202040400000,
    0x0000788484483048848484780000, 0x0000788484848c74048488700000,
    0x0000000010381000001038100000, 0x0000000000303000003010102000,
    0x0000000408102040201008040000, 0x0000000000fc0000fc0000000000,
    0x0000004020100804081020400000, 0x0000788484081010100010100000,
    0x000038449ca4a4a4a49c403c0000, 0x00003048848484fc848484840000,
    0x0000f0888488f088848488f00000, 0x0000788484808080808484780000,
    0x0000f08884848484848488f00000, 0x0000fc808080f080808080fc0000,
    0x0000fc808080f080808080800000, 0x000078848480809c84848c740000,
    0x000084848484fc84848484840000, 0x00007c10101010101010107c0000,
    0x00001c0808080808088888700000, 0x0000848890a0c0a0908884840000,
    0x0000808080808080808080fc0000, 0x000084ccccb4b484848484840000,
    0x00008484c4c4a4948c8c84840000, 0x0000788484848484848484780000,
    0x0000f884848484f8808080800000, 0x0000788484848484e4948c780804,
    0x0000f884848484f8908884840000, 0x0000788484806018048484780000,
    0x0000fe1010101010101010100000, 0x0000848484848484848484780000,
    0x0000848484844848483030300000, 0x0000444444444444545454280000,
    0x0000848448483030484884840000, 0x0000444444282810101010100000,
    0x0000fc0408101020404080fc0000, 0x003c20202020202020202020203c,
    0x0080804040202020101008080404, 0x0078080808080808080808080878,
    0x0030488400000000000000000000, 0x00000000000000000000000000fc,
    0x0020100800000000000000000000, 0x00000000007884047c84847c0000,
    0x0000808080b8c4848484c4b80000, 0x0000000000788480808084780000,
    0x0000040404748c8484848c740000, 0x0000000000788484fc8084780000,
    0x000018242020f820202020200000, 0x0000000000748888887040b88478,
    0x0000808080b8c484848484840000, 0x00001010003010101010107c0000,
    0x00000404000c0404040404444438, 0x00008080808890a0e09088840000,
    0x00003010101010101010107c0000, 0x0000000000685454545454440000,
    0x0000000000b8c484848484840000, 0x0000000000788484848484780000,
    0x0000000000b8c4848484c4b88080, 0x0000000000748c8484848c740404,
    0x0000000000b8c484808080800000, 0x0000000000788440300884780000,
    0x0000202020f82020202024180000, 0x000000000084848484848c740000,
    0x0000000000444444282810100000, 0x0000000000444454545454280000,
    0x0000000000848448304884840000, 0x0000000000848484848c74048478,
    0x0000000000fc0810202040fc0000, 0x000c10101010102010101010100c,
    0x0010101010101010101010101010, 0x0060101010101008101010101060,
    0x0040a49408000000000000000000]

end StatusDisplay.Glyph
