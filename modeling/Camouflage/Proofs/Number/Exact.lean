/-
Camouflage/Proofs/Number/Exact.lean

Exact numbers as scalars.  Any linearly ordered field in which numbers can be
rounded down carries the arithmetic of a walk, without rounding: the rational
numbers, the real numbers.  A theorem about exact numbers is one about all of
these.

The lemmas below take the operations of a scalar to those of the field, so that
the algebra of the field applies to what a walk computes.
-/
import Mathlib.Algebra.Field.Basic
import Mathlib.Algebra.Group.ModEq
import Mathlib.Algebra.Order.Floor.Ring
import Mathlib.Algebra.Order.Group.Unbundled.Abs
import Mathlib.Tactic.Ring
import Camouflage.Number.Scalar

namespace Camouflage

variable {K : Type} [Field K] [LinearOrder K] [FloorRing K] [ToString K]

/-- The arithmetic of an ordered field; what is left over in a remainder is never negative. -/
instance : Scalar K where
  toAdd := inferInstance
  toSub := inferInstance
  toMul := inferInstance
  toNeg := inferInstance
  ofNat n := (n : K)
  half x := x / 2
  abs x := |x|
  less a b := decide (a < b)
  atMost a b := decide (a ≤ b)
  remainder a b := a - |b| * ⌊a / |b|⌋
  isFinite _ := true
  numeral := toString

namespace Exact

/-! ### The operations are those of the field -/

theorem ofNat_eq (n : ℕ) : (Scalar.ofNat n : K) = n := rfl

theorem remainder_eq (a b : K) : Scalar.remainder a b = a - |b| * ⌊a / |b|⌋ := rfl

/-- A remainder differs from its number by a multiple of the divisor. -/
theorem remainder_modEq (a b : K) : Scalar.remainder a b ≡ a [PMOD b] := by
  rw [remainder_eq, AddCommGroup.modEq_iff_zsmul]
  -- what was taken off is a multiple of `|b|`, which is `b` or its negative
  rcases abs_choice b with h | h
  · refine ⟨⌊a / |b|⌋, ?_⟩
    rw [h, zsmul_eq_mul]
    ring
  · refine ⟨-⌊a / |b|⌋, ?_⟩
    rw [h, zsmul_eq_mul]
    push_cast
    ring

section Bounds

variable [IsStrictOrderedRing K]

theorem remainder_nonneg (a : K) {b : K} (hb : 0 < b) : 0 ≤ Scalar.remainder a b := by
  rw [remainder_eq, abs_of_pos hb, mul_comm]
  exact Int.sub_floor_div_mul_nonneg a hb

theorem remainder_lt (a : K) {b : K} (hb : 0 < b) : Scalar.remainder a b < b := by
  rw [remainder_eq, abs_of_pos hb, mul_comm]
  exact Int.sub_floor_div_mul_lt a hb

end Bounds

end Exact

end Camouflage
