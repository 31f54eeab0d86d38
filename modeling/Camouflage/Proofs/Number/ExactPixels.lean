/-
Camouflage/Proofs/Number/ExactPixels.lean

Exact numbers as pixel coordinates.  Any linearly ordered field in which numbers
can be rounded down carries the arithmetic of strokes, without rounding.  The only
operation that leaves the field is the length of a hypotenuse, but rounded up it is
the least whole number whose square is not below the sum of the squares
(`lengthUp_le_iff`), and for that no root is needed.
-/
import Camouflage.Proofs.Number.Exact
import Camouflage.Raster.Stroke
import Mathlib.Algebra.Order.Floor.Ring
import Mathlib.Data.Nat.Sqrt

namespace Camouflage

variable {K : Type} [Field K] [LinearOrder K] [FloorRing K]

namespace Exact

/-- The square root rounded up: the least number whose square reaches a given one. -/
def rootUp : ℕ → ℕ
  | 0 => 0
  | n + 1 => n.sqrt + 1

theorem rootUp_le_iff (n m : ℕ) : rootUp n ≤ m ↔ n ≤ m * m := by
  cases n with
  | zero => exact iff_of_true (Nat.zero_le m) (Nat.zero_le _)
  | succ n => exact Nat.sqrt_lt

/-- The arithmetic of an ordered field, where a half is rounded away from zero. -/
scoped instance : PixelScalar K where
  toAdd := inferInstance
  toSub := inferInstance
  toMul := inferInstance
  ofInt n := (n : K)
  half x := x / (2 : ℕ)
  abs x := |x|
  less a b := decide (a < b)
  truncate x := if 0 ≤ x then ⌊x⌋ else -⌊-x⌋
  round x := if 0 ≤ x then ⌊x + 1 / (2 : ℕ)⌋ else -⌊-x + 1 / (2 : ℕ)⌋
  lengthUp x y := rootUp ⌈x ^ 2 + y ^ 2⌉.toNat
  ratio i n := (i : K) / (n : K)

/-- A length rounded up is within a whole number exactly if the length is. -/
theorem lengthUp_le_iff [IsStrictOrderedRing K] (x y : K) (n : ℕ) :
    PixelScalar.lengthUp x y ≤ n ↔ x ^ 2 + y ^ 2 ≤ (n : K) ^ 2 := by
  show rootUp ⌈x ^ 2 + y ^ 2⌉.toNat ≤ n ↔ _
  rw [rootUp_le_iff, Int.toNat_le, Int.ceil_le, Nat.cast_mul, Int.cast_mul, Int.cast_natCast,
    ← sq]

end Exact

end Camouflage
