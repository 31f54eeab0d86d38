/-
Camouflage/Raster/Image.lean

Images: colors in rows from the top, and pixels addressed by whole numbers of
either sign.  Painting outside the image changes nothing.
-/
import Camouflage.Palette.Color

namespace Camouflage

/-- A picture of `width` by `height` pixels, row by row. -/
structure Image where
  width : Nat
  height : Nat
  pixels : Array Color
deriving DecidableEq

namespace Image

/-- An image of one color. -/
def filled (width height : Nat) (color : Color) : Image :=
  ⟨width, height, Array.replicate (width * height) color⟩

/-- The image with one pixel painted, if the position is on it. -/
@[inline] def paint (image : Image) (x y : Int) (color : Color) : Image :=
  let ⟨width, height, pixels⟩ := image
  if 0 ≤ x && x < width && 0 ≤ y && y < height then
    ⟨width, height, pixels.setIfInBounds (y.toNat * width + x.toNat) color⟩
  else ⟨width, height, pixels⟩

/-- The color at a position, if it is on the image. -/
def pixel? (image : Image) (x y : Nat) : Option Color :=
  if x < image.width then image.pixels[y * image.width + x]? else none

end Image

end Camouflage
