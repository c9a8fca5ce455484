/-
The display.

The display is a grid of 64 columns and 32 rows of pixels, stored row by row.  Programs draw
on it with sprites only: each byte of a sprite is one row of eight pixels, leftmost first,
and every pixel that is set in the sprite toggles one pixel of the display.  Positions wrap
around at the edges, for each pixel on its own.  A toggle that turns a pixel off is a
collision.

A reader of the display takes a `snapshot`; `dirty` says that the display may have changed
since the last one was taken.
-/
import ChipEight.Word

namespace ChipEight

/-- The pixels, row by row from the top, each row from the left. -/
abbrev Pixels := Vector Bool 2048

/-- The state of the display. -/
structure Display where
  /-- The pixels. -/
  pixels : Pixels
  /-- Whether the pixels may have changed since the last snapshot. -/
  dirty : Bool
  deriving DecidableEq

namespace Display

/-- The number of columns. -/
def width : Nat := 64

/-- The number of rows. -/
def height : Nat := 32

/-- All pixels off. -/
def blank : Pixels := Vector.replicate 2048 false

/-- The display after switching on. -/
def powerOn : Display := ⟨blank, true⟩

/-- The display with every pixel off. -/
def clear (d : Display) : Display := { d with pixels := blank, dirty := true }

/-- Whether the pixel in column `c` and row `r` is lit; meant for positions on the grid. -/
def isLit (d : Display) (c r : Nat) : Bool := d.pixels[64 * r + c]?.getD false

/-- The place in the grid of a column and a row, both wrapped around. -/
def place (column row : Int) : Fin 2048 :=
  ⟨64 * (row % 32).toNat + (column % 64).toNat, by omega⟩

/-- The columns of a sprite row that are set, counted from the left. -/
def setColumns (bits : Byte) : List Nat :=
  (List.range 8).filter bits.getMsbD

/-- The places that a sprite at column `x` and row `y` toggles, in drawing order. -/
def places (x y : Int) : List Byte → List (Fin 2048)
  | [] => []
  | bits :: rest => (setColumns bits).map (fun c : Nat => place (x + c) y) ++ places x (y + 1) rest

/-- Toggles one pixel; the second part becomes true if the pixel was lit. -/
def toggle (s : Pixels × Bool) (p : Fin 2048) : Pixels × Bool :=
  let lit := s.1[p]
  (s.1.set p (!lit), s.2 || lit)

/-- Draws a sprite at column `x` and row `y`, and says whether a pixel was turned off. -/
def draw (d : Display) (x y : Int) (sprite : List Byte) : Bool × Display :=
  let (pixels, collision) := (places x y sprite).foldl toggle (d.pixels, false)
  (collision, ⟨pixels, true⟩)

/-- The pixels as they are, and the display with the change marked as seen. -/
def snapshot (d : Display) : Pixels × Display := (d.pixels, { d with dirty := false })

/-- The number of lit pixels. -/
def litCount (d : Display) : Nat := d.pixels.toList.count true

end Display
end ChipEight
