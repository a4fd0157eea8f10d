/-!
# Screen

The screen is 64 pixels wide and 32 pixels high, and each pixel is on or off.
A row of pixels is one word of 64 bits whose highest bit is the leftmost
pixel.  Coordinates wrap around both edges.

A sprite is eight pixels wide and as high as its number of bytes.  Drawing
flips the pixels that the sprite covers, so drawing the same sprite twice at
one place leaves the screen as it was.
-/

namespace ChipEight

/-- A row of 64 pixels, the leftmost at the highest bit. -/
abbrev PixelRow := BitVec 64

/-- The picture. -/
structure Screen where
  /-- The rows from top to bottom. -/
  rows : Vector PixelRow 32
deriving DecidableEq

namespace Screen

/-- The picture in which every pixel is off. -/
def blank : Screen :=
  ⟨Vector.replicate 32 0⟩

/-- The row at height `y`, wrapping around the bottom edge. -/
def row (screen : Screen) (y : Nat) : PixelRow :=
  screen.rows[y % 32]

/-- Whether the pixel in column `x` of row `y` is on. -/
def pixel (screen : Screen) (x y : Nat) : Bool :=
  (screen.row y).getMsbD (x % 64)

/-- A byte of a sprite as a row of pixels: its highest bit in column `x`, and
the others to the right of it, wrapping around the right edge. -/
def spriteRow (byte : UInt8) (x : Nat) : PixelRow :=
  (byte.toBitVec.setWidth 64 <<< 56).rotateRight x

/-- Flip the pixels of row `y` that are set in `mask`. -/
def flip (screen : Screen) (y : Nat) (mask : PixelRow) : Screen :=
  ⟨screen.rows.set (y % 32) (screen.row y ^^^ mask)⟩

/-- Draw a sprite with its top left pixel at column `x` and row `y`.  Answers
the new picture, and whether a pixel went off. -/
def draw (screen : Screen) (x y : Nat) : List UInt8 → Screen × Bool
  | [] => (screen, false)
  | byte :: rest =>
    let mask := spriteRow byte x
    let collides := screen.row y &&& mask != 0
    let (screen, more) := (screen.flip y mask).draw x (y + 1) rest
    (screen, collides || more)

/-- Coordinates wrap around the edges. -/
theorem pixel_mod (screen : Screen) (x y : Nat) :
    screen.pixel (x % 64) (y % 32) = screen.pixel x y := by
  simp [pixel, row]

@[simp]
theorem draw_nil (screen : Screen) (x y : Nat) :
    screen.draw x y [] = (screen, false) :=
  rfl

/-- Flipping changes one row only. -/
theorem row_flip (screen : Screen) (y other : Nat) (mask : PixelRow) :
    (screen.flip y mask).row other =
      if y % 32 = other % 32 then screen.row y ^^^ mask else screen.row other := by
  simp [row, flip, Vector.getElem_set]

end Screen
end ChipEight
