/-
Camouflage/Proofs/Number/Reals.lean

The real numbers as numbers of a walk.  Their arithmetic is that of any ordered
field; what a field does not have are the directions, which take a cosine and a
sine, and the draws.  A draw of exact numbers takes the same bits of a random word
as one of binary64 numbers.  It never misses a bound, so there is no scale to be
fitted, and no width is too large for it.
-/
import Mathlib.Analysis.SpecialFunctions.Trigonometric.Basic
import Camouflage.Proofs.Number.Exact

namespace Camouflage.Exact

/-- A real number is named by its whole part. -/
noncomputable scoped instance instToStringReal : ToString ℝ := ⟨fun x => toString ⌊x⌋⟩

/-! ### Directions -/

/-- A heading in radians. -/
noncomputable def radians (degrees : ℝ) : ℝ := degrees * (Real.pi / 180)

noncomputable scoped instance : Compass ℝ where
  cosine degrees := Real.cos (radians degrees)
  sine degrees := Real.sin (radians degrees)

theorem abs_cosine_le_one (degrees : ℝ) : |Compass.cosine degrees| ≤ 1 :=
  Real.abs_cos_le_one (radians degrees)

theorem abs_sine_le_one (degrees : ℝ) : |Compass.sine degrees| ≤ 1 :=
  Real.abs_sin_le_one (radians degrees)

/-! ### Draws -/

section Draws

variable {K : Type} [Field K]

/-- The number in `[0, 1)` that the upper 52 bits of a word stand for. -/
def unitFraction (w : UInt64) : K := ((w >>> 12).toNat : K) / (2 ^ 52 : ℕ)

/-- The largest value of `unitFraction`. -/
def largestFraction : K := 1 - 1 / (2 ^ 52 : ℕ)

scoped instance : Sampling K where
  between low high w := unitFraction w * ((high - low) / largestFraction) + low
  upTo low high w := unitFraction w * (high - low) + low
  halfWidth d := d

end Draws

end Camouflage.Exact
