/-
Camouflage/Raster/Rasterizer.lean

The sink that paints.  The origin of the canvas is the middle of the image and
y points up; the image may have another size than the canvas the pattern was
made for, and then shows what of it lies around the middle.

A line is stroked from the cursor, which every move and every line leaves at
their end.  The number of pen stamps is limited by the size of the image: four
steps for every column and every row.  Columns and rows are added as numbers of
32 bits, with a check, before any line is drawn.

There are lines that cannot be stroked: none can where that sum does not fit, and
no thick one where it is zero, since then there are no steps.  Such a line puts an
end to the picture (`Rasterizer.picture`).  Memory for the image is taken as
unlimited.
-/
import Camouflage.Number.Binary32
import Camouflage.Number.Binary64
import Camouflage.Pattern.Replay

namespace Camouflage

/-- Canvas coordinates that can be taken to pixel coordinates. -/
class PixelConversion (α : Type) (β : outParam Type) where
  toPixel : α → β

instance : PixelConversion Float Float32 := ⟨Float.toFloat32⟩

namespace Image

variable {β : Type} [PixelScalar β]

/-- The most steps of a stroke on an image, if the sum of its sides fits in 32 bits. -/
def mostSteps? (image : Image) : Option Nat :=
  if image.width + image.height < UInt32.size then some (4 * (image.width + image.height))
  else none

/-- The image with a stroke between two pixel positions, if there can be one. -/
def stroke (image : Image) (color : Color) (x₀ y₀ x₁ y₁ : β) (thickness : Nat) : Option Image :=
  match image.mostSteps? with
  | none => none
  | some most =>
    Raster.stroke (fun image x y => image.paint x y color) x₀ y₀ x₁ y₁ thickness most image

end Image

/-- An image being painted, and where the pen is. -/
structure Rasterizer (α : Type) where
  /-- what has been painted, unless a line has put an end to it -/
  picture : Option Image
  canvas : Canvas α
  cursor : Option (Point α)

namespace Rasterizer

variable {α β : Type} [Scalar α] [PixelScalar β] [PixelConversion α β]

/-- A black image, and the pen nowhere yet. -/
def ofSize (width height : Nat) : Rasterizer α :=
  ⟨some (Image.filled width height ⟨0, 0, 0⟩), Canvas.ofSize width height, none⟩

/-- The pixel column of a position. -/
def column (canvas : Canvas α) (p : Point α) : β :=
  PixelConversion.toPixel (p.x + canvas.halfWidth)

/-- The pixel row of a position. -/
def row (canvas : Canvas α) (p : Point α) : β :=
  PixelConversion.toPixel (canvas.halfHeight - p.y)

/-- The image with a line of the canvas stroked on it, if it can be. -/
def strokeOn (image : Image) (canvas : Canvas α) (source target : Point α) (color : Color)
    (thickness : Nat) : Option Image :=
  image.stroke color (column canvas source) (row canvas source) (column canvas target)
    (row canvas target) thickness

instance : DrawSink α (Rasterizer α) where
  setBackground r color :=
    let ⟨picture, canvas, cursor⟩ := r
    ⟨picture.map fun image => Image.filled image.width image.height color, canvas, cursor⟩
  moveTo r p :=
    let ⟨picture, canvas, _⟩ := r
    ⟨picture, canvas, some p⟩
  lineTo r p color thickness :=
    let ⟨picture, canvas, cursor⟩ := r
    ⟨picture.bind fun image => strokeOn image canvas (cursor.getD p) p color thickness, canvas,
      some p⟩

/-- The image a rasterizer has come to; one without pixels if a line has put an end to it. -/
def image (r : Rasterizer α) : Image := r.picture.getD (Image.filled 0 0 ⟨0, 0, 0⟩)

end Rasterizer

namespace Pattern

variable {α β : Type} [Scalar α] [PixelScalar β] [PixelConversion α β]

/-- The picture of a pattern, if all its lines can be stroked. -/
def rasterize? (pattern : Pattern α) (width height : Nat) : Option Image :=
  (pattern.replay (Rasterizer.ofSize width height : Rasterizer α)).picture

/-- The picture of a pattern as an image, for sizes at which there is one. -/
def rasterize (pattern : Pattern α) (width height : Nat) : Image :=
  (pattern.replay (Rasterizer.ofSize width height : Rasterizer α)).image

theorem rasterize_of_eq_some {pattern : Pattern α} {width height : Nat} {image : Image}
    (h : pattern.rasterize? width height = some image) : pattern.rasterize width height = image :=
  congrArg (Option.getD · _) h

end Pattern

end Camouflage
