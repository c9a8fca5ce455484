/-
Views of the display: single pixels, text and pictures.

Every view shows the same grid.  The text has one line for each row, and the picture repeats
each pixel as a square with an equal number of rows and columns.  Two requests are refused:
a pixel outside the grid and a picture with squares of less than one by one.
-/
import ChipEight.Display.Basic

namespace ChipEight.Display

/-- Why a view is refused. -/
inductive ViewError where
  /-- The grid has no such pixel. -/
  | noSuchPixel (x y : Int)
  /-- The squares of a picture would be smaller than one by one. -/
  | scaleTooSmall (scale : Int)
  deriving DecidableEq, Repr

/-- The wording of a refusal. -/
def ViewError.message : ViewError → String
  | noSuchPixel x y => s!"Pixel ({x}, {y}) out of range"
  | scaleTooSmall scale => s!"scale must be >= 1, got {scale}"

/-- Whether the pixel in column `x` and row `y` is lit. -/
def getPixel (d : Display) (x y : Int) : Except ViewError Bool :=
  if 0 ≤ x ∧ x < width ∧ 0 ≤ y ∧ y < height then .ok (d.isLit x.toNat y.toNat)
  else .error (.noSuchPixel x y)

/-- The pixels of one row, from the left. -/
def row (d : Display) (r : Nat) : List Bool := (d.pixels.toList.drop (width * r)).take width

/-- One text for each row, with `on` for lit pixels and `off` for the others. -/
def textGrid (d : Display) (on off : String) : List String :=
  (List.range height).map fun r =>
    String.join ((d.row r).map fun lit => if lit then on else off)

/-- The rows as one text with a line for each. -/
def text (d : Display) (on off : String) : String := "\n".intercalate (d.textGrid on off)

/-- How lit pixels are written unless something else is asked for. -/
def litMark : String := "#"

/-- How dark pixels are written unless something else is asked for. -/
def darkMark : String := "."

/-! ### Pictures -/

/-- What a system for grey images offers for pictures of the grid.  Grey levels run from 0 for
black to 255 for white. -/
structure Imaging (Image : Type) where
  /-- A new image with one dot for each pixel of the grid, all in one grey level. -/
  blank (level : Int) : Image
  /-- An image with grey levels put in from its first dot on, row by row. -/
  fill (image : Image) (levels : List Int) : Image
  /-- An image brought to another width and height; each dot takes the level of the nearest one. -/
  resize (image : Image) (width height : Nat) : Image
  /-- The number of dots in a row. -/
  width (image : Image) : Nat
  /-- The number of rows. -/
  height (image : Image) : Nat
  /-- The grey level of the dot in column `x` and row `y`. -/
  dot (image : Image) (x y : Nat) : Int

/-- An image of some pixels, made by a system for images.  Each pixel becomes a square of `scale`
by `scale` dots; pixels that are missing at the end are dark. -/
def imageOn {Image : Type} (system : Imaging Image) (lit : List Bool)
    (scale foreground background : Int) : Except ViewError Image :=
  if scale < 1 then .error (.scaleTooSmall scale)
  else
    let levels := lit.map fun lit => if lit then foreground else background
    let image := system.fill (system.blank background) levels
    if 1 < scale then .ok (system.resize image (width * scale.toNat) (height * scale.toNat))
    else .ok image

/-- The pixels that bytes stand for: every byte but zero is a lit pixel. -/
def litBytes (bytes : List Byte) : List Bool := bytes.map (· ≠ 0)

/-- A grey picture of the grid: each pixel is a square of `scale` by `scale` dots. -/
structure Picture where
  /-- The side of the squares. -/
  scale : Nat
  /-- The grey level of each square, row by row. -/
  squares : Vector Byte 2048
  deriving DecidableEq

/-- The nearest grey level to an integer. -/
def greyLevel (n : Int) : Byte := BitVec.ofNat 8 (min n.toNat 255)

namespace Picture

/-- The width of a picture in dots. -/
def dotWidth (p : Picture) : Nat := Display.width * p.scale

/-- The height of a picture in dots. -/
def dotHeight (p : Picture) : Nat := Display.height * p.scale

/-- The grey level of the dot in column `x` and row `y`. -/
def dot (p : Picture) (x y : Nat) : Byte :=
  p.squares[64 * (y / p.scale) + x / p.scale]?.getD 0

/-- The picture with other grey levels for its first squares. -/
def withLevels (p : Picture) (levels : List Int) : Picture :=
  let cells := levels.toArray
  { p with squares := Vector.ofFn fun k => (cells[k.val]?.map greyLevel).getD (p.squares.get k) }

/-- Pictures as images. -/
def imaging : Imaging Picture where
  blank level := ⟨1, Vector.replicate 2048 (greyLevel level)⟩
  fill := withLevels
  resize p width _ := { p with scale := width / Display.width }
  width := dotWidth
  height := dotHeight
  dot p x y := (p.dot x y).toNat

end Picture

/-- A picture of some pixels. -/
def picture : List Bool → Int → Int → Int → Except ViewError Picture := imageOn Picture.imaging

/-- A picture of the display in black and white. -/
def render (d : Display) (scale : Int) : Except ViewError Picture :=
  picture d.pixels.toList scale 255 0

end ChipEight.Display
