/-
The built-in font.

Each hexadecimal digit has a glyph of five rows; the sixteen glyphs lie one after the other
at the start of memory.  Programs find the glyph of a digit through `glyphAddress`.
-/
import ChipEight.Word

namespace ChipEight.Font

/-- The rows of the sixteen glyphs, `0` to `F`. -/
def glyphs : List Byte :=
  [ 0xF0, 0x90, 0x90, 0x90, 0xF0,
    0x20, 0x60, 0x20, 0x20, 0x70,
    0xF0, 0x10, 0xF0, 0x80, 0xF0,
    0xF0, 0x10, 0xF0, 0x10, 0xF0,
    0x90, 0x90, 0xF0, 0x10, 0x10,
    0xF0, 0x80, 0xF0, 0x10, 0xF0,
    0xF0, 0x80, 0xF0, 0x90, 0xF0,
    0xF0, 0x10, 0x20, 0x40, 0x40,
    0xF0, 0x90, 0xF0, 0x90, 0xF0,
    0xF0, 0x90, 0xF0, 0x10, 0xF0,
    0xF0, 0x90, 0xF0, 0x90, 0x90,
    0xE0, 0x90, 0xE0, 0x90, 0xE0,
    0xF0, 0x80, 0x80, 0x80, 0xF0,
    0xE0, 0x90, 0x90, 0x90, 0xE0,
    0xF0, 0x80, 0xF0, 0x80, 0xF0,
    0xF0, 0x80, 0xF0, 0x80, 0x80 ]

/-- The number of rows of a glyph. -/
def glyphSize : Nat := 5

/-- Where the glyph of a digit begins. -/
def glyphAddress (digit : Nibble) : Address := BitVec.ofNat 12 (glyphSize * digit.toNat)

/-- The digit that an integer shows: its low four bits. -/
def lowDigit (n : Int) : Nibble := BitVec.ofInt 4 n

end ChipEight.Font
