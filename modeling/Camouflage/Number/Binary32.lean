/-
Camouflage/Number/Binary32.lean

Binary32 numbers as pixel coordinates.  A conversion to a whole number stops at
the bounds of 32 bits, and what is undefined counts as zero.  The length of a
hypotenuse is computed in binary64 and rounded once.
-/
import Camouflage.Raster.Stroke

namespace Camouflage.Binary32

/-- The hypotenuse over two extents. -/
def hypotenuse (x y : Float32) : Float32 :=
  if x.isInf || y.isInf then 1.0 / 0.0
  else
    let a := x.toFloat
    let b := y.toFloat
    (a * a + b * b).sqrt.toFloat32

end Binary32

instance : PixelScalar Float32 where
  ofInt n := n.toInt64.toFloat32
  half x := x / 2.0
  abs := Float32.abs
  less a b := a < b
  truncate x := x.toInt32.toInt
  round x := x.round.toInt32.toInt
  lengthUp x y := (Binary32.hypotenuse x y).ceil.toUInt64.toNat
  ratio i n := i.toUInt64.toFloat32 / n.toUInt64.toFloat32

end Camouflage
