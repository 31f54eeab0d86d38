/-
Camouflage/Raster/Stroke.lean

The pixels of a stroke.  A thin stroke is a line; a thick one is a line with a
round pen stamped along it.  The stamps divide it into steps, of which there is
at least one and no more than a limit: under a limit of zero there is no thick
stroke, and what asks for one ends without a result.

Each shape is a fold over its pixels: it hands them one by one to a function
and keeps what that function makes of them.  Painting is the fold that writes a
color, and the set of pixels of a shape is the fold that collects them; which
pixels they are depends on coordinates alone.

A line goes one pixel at a time along the axis on which it is longer and moves
on the other axis when an error term, which starts at half its extent and loses
the other extent with every pixel, falls below zero.
-/
import Camouflage.Raster.Image

namespace Camouflage

/-- The arithmetic of pixel coordinates. -/
class PixelScalar (β : Type) extends Add β, Sub β, Mul β where
  /-- a whole coordinate -/
  ofInt : Int → β
  /-- half a number -/
  half : β → β
  /-- the distance to zero -/
  abs : β → β
  /-- strictly smaller -/
  less : β → β → Bool
  /-- the whole part, rounded toward zero -/
  truncate : β → Int
  /-- the nearest whole number, a half going away from zero -/
  round : β → Int
  /-- the length of the hypotenuse over two extents, rounded up -/
  lengthUp : β → β → Nat
  /-- a quotient of whole numbers -/
  ratio : Nat → Nat → β

namespace Raster

variable {β γ : Type} [PixelScalar β]

/-! ### Lines -/

/-- The remaining pixels of a line from `(x, y)` on, given how many there are. -/
@[specialize] def lineFrom (plot : γ → Int → Int → γ) (steep : Bool) (dx dy : β) (yStep : Int) :
    Nat → Int → Int → β → γ → γ
  | 0, _, _, _, acc => acc
  | left + 1, x, y, error, acc =>
    let acc := if steep then plot acc y x else plot acc x y
    let error := error - dy
    if PixelScalar.less error (PixelScalar.ofInt 0) then
      lineFrom plot steep dx dy yStep left (x + 1) (y + yStep) (error + dx) acc
    else lineFrom plot steep dx dy yStep left (x + 1) y error acc

/-- The pixels of a line that is no longer in y than in x and goes to the right. -/
@[specialize] def flatLine (plot : γ → Int → Int → γ) (steep : Bool) (x₀ y₀ x₁ y₁ : β) (acc : γ) :
    γ :=
  let dx := x₁ - x₀
  let x := PixelScalar.truncate x₀
  let yStep := if PixelScalar.less y₀ y₁ then 1 else -1
  lineFrom plot steep dx (PixelScalar.abs (y₁ - y₀)) yStep
    (PixelScalar.truncate x₁ + 1 - x).toNat x (PixelScalar.truncate y₀) (PixelScalar.half dx) acc

/-- The pixels of a line that goes in either direction. -/
@[specialize] def orderedLine (plot : γ → Int → Int → γ) (steep : Bool) (x₀ y₀ x₁ y₁ : β)
    (acc : γ) : γ :=
  if PixelScalar.less x₁ x₀ then flatLine plot steep x₁ y₁ x₀ y₀ acc
  else flatLine plot steep x₀ y₀ x₁ y₁ acc

/-- The pixels of a line. -/
@[specialize] def line (plot : γ → Int → Int → γ) (x₀ y₀ x₁ y₁ : β) (acc : γ) : γ :=
  if PixelScalar.less (PixelScalar.abs (x₁ - x₀)) (PixelScalar.abs (y₁ - y₀)) then
    orderedLine plot true y₀ x₀ y₁ x₁ acc
  else orderedLine plot false x₀ y₀ x₁ y₁ acc

/-! ### Discs -/

variable (β) in
/-- The pixels of a row from one column to another. -/
@[specialize] def row (plot : γ → Int → Int → γ) (left right y : Int) (acc : γ) : γ :=
  line plot (PixelScalar.ofInt left : β) (PixelScalar.ofInt y) (PixelScalar.ofInt right)
    (PixelScalar.ofInt y) acc

variable (β) in
/-- The rows of a disc from an octant's point `(x, y)` on, with decision value `p`. -/
@[specialize] def discFrom (plot : γ → Int → Int → γ) (x₀ y₀ : Int) :
    Nat → Int → Int → Int → γ → γ
  | 0, _, _, _, acc => acc
  | fuel + 1, x, y, p, acc =>
    if x ≤ y then
      let acc := row β plot (x₀ - x) (x₀ + x) (y₀ + y) acc
      let acc := row β plot (x₀ - y) (x₀ + y) (y₀ + x) acc
      let acc := row β plot (x₀ - x) (x₀ + x) (y₀ - y) acc
      let acc := row β plot (x₀ - y) (x₀ + y) (y₀ - x) acc
      let x := x + 1
      if p < 0 then discFrom plot x₀ y₀ fuel x y (p + 2 * x + 1) acc
      else discFrom plot x₀ y₀ fuel x (y - 1) (p + 2 * (x - (y - 1)) + 1) acc
    else acc

variable (β) in
/-- The pixels of a disc; its octant has at most one point for every column of the radius. -/
@[specialize] def disc (plot : γ → Int → Int → γ) (x₀ y₀ : Int) (radius : Nat) (acc : γ) : γ :=
  discFrom β plot x₀ y₀ (radius + 1) 0 radius (1 - radius) acc

/-! ### Strokes -/

/-- The pen stamps of a stroke from the `i`-th on: discs at even distances along it. -/
@[specialize] def stamps (plot : γ → Int → Int → γ) (radius steps : Nat) (x₀ y₀ dx dy : β) :
    Nat → Nat → γ → γ
  | 0, _, acc => acc
  | left + 1, i, acc =>
    let t := PixelScalar.ratio i steps
    let acc := disc β plot (PixelScalar.round (x₀ + dx * t)) (PixelScalar.round (y₀ + dy * t))
      radius acc
    stamps plot radius steps x₀ y₀ dx dy left (i + 1) acc

/-- The pixels of a stroke with a pen of the given thickness, divided into some steps if it is
thick. -/
@[specialize] def strokeInSteps (plot : γ → Int → Int → γ) (x₀ y₀ x₁ y₁ : β)
    (thickness steps : Nat) (acc : γ) : γ :=
  let acc := line plot x₀ y₀ x₁ y₁ acc
  if thickness ≤ 1 then acc
  else stamps plot (thickness / 2) steps x₀ y₀ (x₁ - x₀) (y₁ - y₀) (steps + 1) 0 acc

/-- The number of steps of a stroke without a limit: one for every unit of its length, and at least
one. -/
def lengthSteps (x₀ y₀ x₁ y₁ : β) : Nat := max (PixelScalar.lengthUp (x₁ - x₀) (y₁ - y₀)) 1

/-- That number held between one and a limit.  Nothing lies between one and zero. -/
def limitSteps? (most steps : Nat) : Option Nat :=
  if 1 ≤ most then some (min steps most) else none

/-- The pixels of a stroke with a pen of the given thickness and at most `most` steps, if so many
can be made. -/
@[specialize] def stroke (plot : γ → Int → Int → γ) (x₀ y₀ x₁ y₁ : β) (thickness most : Nat)
    (acc : γ) : Option γ :=
  if thickness ≤ 1 then some (line plot x₀ y₀ x₁ y₁ acc)
  else
    match limitSteps? most (lengthSteps x₀ y₀ x₁ y₁) with
    | none => none
    | some steps => some (strokeInSteps plot x₀ y₀ x₁ y₁ thickness steps acc)

end Raster

end Camouflage
