/-
Camouflage/Number/Binary64.lean

Binary64 numbers as scalars.  Addition, multiplication and comparison are those
of the machine.  The remainder is exact: both numbers are taken apart into
mantissa and exponent and the remainder of whole numbers is put together again,
which needs no rounding because it is never longer than the divisor.
-/
import Camouflage.Decimal.Layout
import Camouflage.Number.Scalar

namespace Camouflage.Binary64

/-- Numbers in messages are positional throughout, and whole numbers have no point. -/
def messageLayout : Decimal.Layout :=
  { positional := none, wholeMark := "", plus := "", nan := "NaN", infinity := "inf" }

/-! ### Exact remainder -/

/-- The remainder of the magnitudes of two finite numbers, the second not zero. -/
def magnitudeRemainder (a b : Float) : Float :=
  let (ma, ea) := parts (magnitude a)
  let (mb, eb) := parts (magnitude b)
  let e := min ea eb
  let r := (ma <<< (ea - e).toNat) % (mb <<< (eb - e).toNat)
  (Float.ofNat r).scaleB e

/-- The remainder with the sign of the dividend. -/
def signedRemainder (a b : Float) : Float :=
  if a.isNaN || b.isNaN || a.isInf || b == 0.0 then 0.0 / 0.0
  else if a.abs < b.abs then a
  else
    let r := magnitudeRemainder a b
    if isSigned a then -r else r

/-- The remainder that is not negative; a rounded sum can still reach the divisor. -/
def euclideanRemainder (a b : Float) : Float :=
  let r := signedRemainder a b
  if r < 0.0 then r + b.abs else r

/-! ### Directions -/

/-- The length of one degree on the unit circle. -/
def radiansPerDegree : Float := 3.14159265358979323846 / 180.0

/-! ### Draws -/

/-- The number in `[0, 1)` that the upper 52 bits of a word stand for. -/
def unitFraction (w : UInt64) : Float := (w >>> 12).toFloat / 4503599627370496.0

/-- The largest value of `unitFraction`. -/
def largestFraction : Float := 1.0 - 1.0 / 4503599627370496.0

/-- Lowers a scale, by one step of the number format at a time, until its largest multiple stays
within the bound. -/
def fitScale (low high : Float) : Nat → Float → Float
  | 0, scale => scale
  | fuel + 1, scale =>
    if scale * largestFraction + low > high then
      fitScale low high fuel (Float.ofBits (scale.toBits - 1))
    else scale

/-- A draw between two bounds, both included. -/
def between (low high : Float) (w : UInt64) : Float :=
  let scale := fitScale low high 64 ((high - low) / largestFraction)
  unitFraction w * scale + low

/-- A draw from a bound on; rounding can take it up to the other bound. -/
def upTo (low high : Float) (w : UInt64) : Float :=
  unitFraction w * (high - low) + low

/-- A quarter of the largest finite number: twice as much is still finite. -/
def widest : Float := Float.ofBits 0x7FCFFFFFFFFFFFFF

/-- The smaller of a half width and the widest one; an undefined width counts as the widest. -/
def halfWidth (d : Float) : Float := if d < widest then d else widest

end Binary64

instance : Scalar Float where
  ofNat n := Float.ofNat n
  half x := x / 2.0
  abs := Float.abs
  less a b := a < b
  atMost a b := a ≤ b
  remainder := Binary64.euclideanRemainder
  isFinite := Float.isFinite
  numeral := Binary64.messageLayout.render

instance : Compass Float where
  cosine h := (h * Binary64.radiansPerDegree).cos
  sine h := (h * Binary64.radiansPerDegree).sin

instance : Sampling Float where
  between := Binary64.between
  upTo := Binary64.upTo
  halfWidth := Binary64.halfWidth

end Camouflage
