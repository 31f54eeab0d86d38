/-
Camouflage/Proofs/Number/Bounds.lean

Binary64 numbers that stay finite.  Positions are drawn from `-h` to `h`, where
`h` is half a whole number, and jitter from `-d` to `d`, where `d` is a bounded
magnitude.  Such a range has finite bounds and something in it whatever `h` and
`d` are.

A result is rounded, packed into 64 bits and unpacked again where it is used.
`FiniteUpTo` is what survives this: a sign, a mantissa as short as the format
allows and a bound on the exponent.  Rounding raises the exponent by no more than
twice the length of the mantissa (`finiteUpTo_pack_round`).  That is far from
sharp, but a few operations on numbers below `2 ^ 53` are still a long way from
the exponent 972 where a packed number becomes infinite.
-/
import Mathlib
import Camouflage.Number.Binary64

namespace Camouflage.Binary64

open Float.Model UnpackedFloat

/-- Zero or a finite number, with its sign and an exponent at most `top`. -/
inductive FiniteUpTo (s : Sign) (top : Int) : UnpackedFloat → Prop
  | zero : FiniteUpTo s top (.zero s)
  | finite {m : Nat} {e : Int} {hm : 0 < m} (hshort : m < 2 ^ 53) (htop : e ≤ top) :
    FiniteUpTo s top (.finite s m e hm)

/-! ### Packing -/

/-- Bits with an exponent field that is not all ones are those of a finite number. -/
theorem finiteUpTo_packComponents (s : Sign) (m : BitVec 52) {e : Nat} (he : e < 2047) {top : Int}
    (htop : (e : Int) - 1075 ≤ top) (hleast : -1074 ≤ top) :
    FiniteUpTo s top (UnpackedFloat.unpack Format.binary64
      (packComponents Format.binary64 s (BitVec.ofNat 11 e) m)) := by
  have hnat : (BitVec.ofNat 11 e).toNat = e := by
    rw [BitVec.toNat_ofNat, Nat.mod_eq_of_lt (by omega)]
  have hne : BitVec.ofNat 11 e ≠ -1#11 := by
    intro heq
    rw [heq] at hnat
    exact absurd hnat (Nat.ne_of_gt he)
  have hbias : Format.binary64.exponentBias = 1023 := rfl
  rw [UnpackedFloat.unpack]
  simp only [unpackExponent_packComponents, unpackMantissa_packComponents,
    unpackSign_packComponents, Sign.ofBitVec_toBitVec, if_neg hne, hnat, hbias]
  split
  · split
    · exact .zero
    · -- a subnormal number, with the least exponent
      next hzero _ =>
      have hm := m.isLt
      rw [hzero] at hnat
      have hzero : e = 0 := hnat.symm
      exact .finite (by omega) (by omega)
  · exact .finite (BitVec.isLt _) (by omega)

theorem finiteUpTo_pack {s : Sign} {m : Nat} {e : Int} (hm : 0 < m) {top : Int} (he : e ≤ top)
    (hleast : -1074 ≤ top) (htop : top ≤ 971) :
    FiniteUpTo s top (Float.Model.pack (.finite s m e hm)).unpack := by
  have hbias : Format.binary64.exponentBias = 1023 := rfl
  show FiniteUpTo s top (UnpackedFloat.unpack _ (UnpackedFloat.pack _ _))
  rw [UnpackedFloat.pack]
  simp only [hbias]
  rw [if_neg (by omega)]
  split
  · exact finiteUpTo_packComponents s _ (by omega) (by omega) hleast
  · have hfield : (0#11) = BitVec.ofNat 11 0 := rfl
    rw [hfield]
    exact finiteUpTo_packComponents s _ (by decide) (by omega) hleast

/-- A number with too large an exponent is packed as infinity. -/
theorem pack_eq_infinity {s : Sign} {m : Nat} {e : Int} (hm : 0 < m) (he : 971 < e) :
    Float.Model.pack (.finite s m e hm) = Float.Model.pack (.infinity s) := by
  have hbias : Format.binary64.exponentBias = 1023 := rfl
  have hpack : UnpackedFloat.pack Format.binary64 (.finite s m e hm)
      = UnpackedFloat.pack Format.binary64 (.infinity s) := by
    rw [UnpackedFloat.pack, UnpackedFloat.pack]
    simp only [hbias]
    rw [if_pos (by omega)]
  rw [Float.Model.pack, Float.Model.pack]
  simp only [hpack]

/-! ### Rounding -/

theorem mantissa_shiftRight (em : ExtendedMantissa) (k : Nat) :
    (em >>> k).mantissa = em.mantissa / 2 ^ k := by
  induction k with
  | zero => exact (Nat.div_one em.mantissa).symm
  | succ k ih =>
    rw [Nat.pow_succ, ← Nat.div_div_eq_div_mul, ← ih]
    rfl

theorem roundedMantissa_le (em : ExtendedMantissa) : em.roundedMantissa ≤ em.mantissa + 1 := by
  obtain ⟨m, roundBit, stickyBit⟩ := em
  cases roundBit with
  | false => cases stickyBit <;> exact Nat.le_succ m
  | true =>
    cases stickyBit with
    | false =>
      show m + m % 2 ≤ m + 1
      omega
    | true => exact Nat.le_refl _

theorem mantissa_ofMantissaAndAccuracy (m : Nat) (accuracy : Accuracy) :
    (ExtendedMantissa.ofMantissaAndAccuracy m accuracy).mantissa = m := by
  cases accuracy with
  | exact => rfl
  | inexact order => cases order <;> rfl

/-- A shift does not make the mantissa larger. -/
theorem mantissa_shift_le (m : Nat) (e : Int) (accuracy : Accuracy) :
    (shiftToTargetExponent Format.binary64 m e accuracy).1.mantissa ≤ m := by
  rw [shiftToTargetExponent, shiftToExponent]
  dsimp only
  rw [mantissa_shiftRight, mantissa_ofMantissaAndAccuracy]
  exact Nat.div_le_self _ _

/-- A shift raises the exponent by no more than the length of the mantissa. -/
theorem exponent_shift_le {m n : Nat} (hm : m ≤ 2 ^ n) (e : Int) (accuracy : Accuracy) :
    (shiftToTargetExponent Format.binary64 m e accuracy).2 ≤ max e (-1074) + n := by
  have hlog : m.log2 ≤ n := by
    rcases Nat.eq_zero_or_pos m with rfl | hpos
    · exact Nat.zero_le n
    · have hpow : 2 ^ m.log2 ≤ 2 ^ n := (Nat.log2_self_le hpos.ne').trans hm
      exact (Nat.pow_le_pow_iff_right (by decide)).1 hpow
  show e + ((max ((m.log2 : Int) + 1 + e - 53) (-1074) - e).toNat : Int) ≤ max e (-1074) + n
  omega

/-- What is rounded and packed stays finite if the exponent leaves room for two shifts. -/
theorem finiteUpTo_pack_round {s : Sign} {m n : Nat} (hm : m < 2 ^ n) (e : Int)
    (accuracy : Accuracy) {top : Int} (hleast : -1074 ≤ top) (htop : top ≤ 971)
    (he : max e (-1074) + 2 * n ≤ top) :
    FiniteUpTo s top
      (Float.Model.pack (roundWithAccuracy Format.binary64 s m e accuracy)).unpack := by
  have hmantissa := mantissa_shift_le m e accuracy
  have hfirst := exponent_shift_le hm.le e accuracy
  rw [roundWithAccuracy]
  revert hmantissa hfirst
  generalize shiftToTargetExponent Format.binary64 m e accuracy = first
  intro hmantissa hfirst
  have hrounded : first.1.roundedMantissa ≤ 2 ^ n := by
    have hle := roundedMantissa_le first.1
    omega
  have hsecond := exponent_shift_le hrounded first.2 .exact
  dsimp only
  split
  · cases s with
    | positive => exact .zero
    | negative => exact .zero
  · exact finiteUpTo_pack _ (by omega) hleast htop

/-! ### Half a whole number -/

theorem finiteUpTo_ofUInt64 (n : UInt64) : FiniteUpTo .positive 232 n.toFloat.toModel.unpack := by
  have hn : n.toNat < 2 ^ 64 := n.toNat_lt
  have hmodel : n.toFloat.toModel
      = Float.Model.pack (UnpackedFloat.normalize Format.binary64 n.toNat 0 .positive) := rfl
  rw [hmodel, UnpackedFloat.normalize]
  split
  · next hneg =>
    rw [Int.compare_eq_lt] at hneg
    omega
  · exact .zero
  · rw [UnpackedFloat.round, decreaseExponent]
    refine finiteUpTo_pack_round (n := 116) ?_ _ _ (by decide) (by decide) (by omega)
    -- at most 52 places are added to the 64 of the number
    have hshift : ((0 : Int) - Format.binary64.targetExponent
        (totalExponent (n.toNat : Int).toNat 0)).toNat ≤ 52 := by
      show ((0 : Int) - max (((n.toNat : Int).toNat.log2 : Int) + 1 + 0 - 53) (-1074)).toNat ≤ 52
      omega
    have hpow := Nat.pow_le_pow_right (n := 2) (by decide) hshift
    rw [Nat.shiftLeft_eq, Int.toNat_natCast]
    calc n.toNat * 2 ^ _ < 2 ^ 64 * 2 ^ 52 := Nat.mul_lt_mul_of_lt_of_le hn hpow (by decide)
      _ = 2 ^ 116 := by decide

/-- The power of ten with which whole numbers are read. -/
def one : Float := Float.ofBits 0x3FF0000000000000

theorem unpack_one : one.toModel.unpack = .finite .positive (2 ^ 52) (-52) (by decide) := by
  rfl

theorem unpack_two : (2.0 : Float).toModel.unpack
    = .finite .positive (2 ^ 52) (-51) (by decide) := by
  rfl

theorem FiniteUpTo.mul_one {u : UnpackedFloat} (h : FiniteUpTo .positive 232 u) :
    FiniteUpTo .positive 392 (Float.Model.pack (UnpackedFloat.mul Format.binary64 u
      (.finite .positive (2 ^ 52) (-52) (by decide)))).unpack := by
  cases h with
  | zero => exact .zero
  | @finite m e hm hshort htop =>
    refine finiteUpTo_pack_round (n := 105) ?_ _ _ (by decide) (by decide) (by omega)
    calc m * 2 ^ 52 < 2 ^ 53 * 2 ^ 52 := Nat.mul_lt_mul_of_pos_right hshort (by decide)
      _ = 2 ^ 105 := by decide

theorem FiniteUpTo.div_two {u : UnpackedFloat} (h : FiniteUpTo .positive 392 u) :
    FiniteUpTo .positive 971 (Float.Model.pack (UnpackedFloat.div Format.binary64 u
      (.finite .positive (2 ^ 52) (-51) (by decide)))).unpack := by
  cases h with
  | zero => exact .zero
  | @finite m e hm hshort htop =>
    have hlog : (2 ^ 52).log2 = 52 := by decide
    have hmlog : m.log2 < 53 := (Nat.log2_lt hm.ne').2 hshort
    have htarget (k : Int) : Format.binary64.targetExponent k = max (k - 53) (-1074) := rfl
    rw [UnpackedFloat.div, divCore]
    dsimp only
    rw [htarget, totalExponent, totalExponent, hlog]
    generalize ht : min (e - -51) (max ((m.log2 : Int) + 1 + e - (52 + 1 + -51) - 53) (-1074)) = t
    refine finiteUpTo_pack_round (n := 158) ?_ _ _ (by decide) (by decide) (by omega)
    -- the quotient is no longer than the dividend, which gets at most 105 places more
    refine (Nat.div_le_self _ _).trans_lt ?_
    have hshift : (e - -51 - t).toNat ≤ 105 := by omega
    have hpow := Nat.pow_le_pow_right (n := 2) (by decide) hshift
    rw [Nat.shiftLeft_eq]
    calc m * 2 ^ (e - -51 - t).toNat
        < 2 ^ 53 * 2 ^ 105 := Nat.mul_lt_mul_of_lt_of_le hshort hpow (by decide)
      _ = 2 ^ 158 := by decide

/-- Half a whole number is finite and not negative. -/
theorem finiteUpTo_half {n : Nat} (hn : n < 2 ^ 53) :
    FiniteUpTo .positive 971 (Float.ofNat n / 2.0).toModel.unpack := by
  have hof : Float.ofNat n = n.toUInt64.toFloat * one := by
    show Float.ofScientific n false 0 = n.toUInt64.toFloat * one
    rw [Float.ofScientific, dif_pos ⟨hn, by decide⟩]
    rfl
  have hmul : (n.toUInt64.toFloat * one).toModel = Float.Model.pack
      (UnpackedFloat.mul Format.binary64 n.toUInt64.toFloat.toModel.unpack
        one.toModel.unpack) := rfl
  have hdiv : (n.toUInt64.toFloat * one / 2.0).toModel = Float.Model.pack
      (UnpackedFloat.div Format.binary64 (n.toUInt64.toFloat * one).toModel.unpack
        (2.0 : Float).toModel.unpack) := rfl
  rw [hof, hdiv, unpack_two, hmul, unpack_one]
  exact (finiteUpTo_ofUInt64 _).mul_one.div_two

/-! ### Bounded magnitudes -/

theorem le_iff {x y : Float} : x ≤ y ↔ x.toModel.unpack.le y.toModel.unpack = true :=
  decide_eq_true_iff

theorem lt_iff {x y : Float} : x < y ↔ x.toModel.unpack.lt y.toModel.unpack = true :=
  decide_eq_true_iff

/-- The magnitude of a number below the widest one is finite: neither infinity nor what is undefined
is below it. -/
theorem finiteUpTo_abs {u : UnpackedFloat}
    (h : (Float.Model.pack u.abs).unpack.lt widest.toModel.unpack = true) :
    FiniteUpTo .positive 971 (Float.Model.pack u.abs).unpack := by
  have hinfinity : (Float.Model.pack (.infinity .positive)).unpack.lt widest.toModel.unpack
      = false := by
    rfl
  have hundefined : (Float.Model.pack .notANumber).unpack.lt widest.toModel.unpack = false := by
    rfl
  cases u with
  | notANumber => exact absurd (hundefined.symm.trans h) Bool.false_ne_true
  | infinity s => exact absurd (hinfinity.symm.trans h) Bool.false_ne_true
  | zero s =>
    show FiniteUpTo .positive 971 (Float.Model.pack (.zero .positive)).unpack
    exact .zero
  | finite s m e hm =>
    rcases le_or_gt e 971 with he | he
    · exact finiteUpTo_pack hm he (by decide) (by decide)
    · rw [UnpackedFloat.abs, pack_eq_infinity hm he] at h
      exact absurd (hinfinity.symm.trans h) Bool.false_ne_true

/-- The half width of a range of jitter is finite and not negative, whatever the deviation is. -/
theorem finiteUpTo_halfWidth (x : Float) :
    FiniteUpTo .positive 971 (halfWidth x.abs).toModel.unpack := by
  rw [halfWidth]
  split
  · next hbelow =>
    have habs : x.abs.toModel = Float.Model.pack x.toModel.unpack.abs := rfl
    rw [lt_iff, habs] at hbelow
    rw [habs]
    exact finiteUpTo_abs hbelow
  · have hwidest : widest.toModel.unpack
        = .finite .positive (2 ^ 53 - 1) 969 (by decide) := by
      rfl
    rw [hwidest]
    exact .finite (by decide) (by decide)

/-! ### Ranges around zero -/

theorem FiniteUpTo.neg {u : UnpackedFloat} (h : FiniteUpTo .positive 971 u) :
    FiniteUpTo .negative 971 (Float.Model.pack u.neg).unpack := by
  cases h with
  | zero => exact .zero
  | finite hshort htop => exact finiteUpTo_pack _ htop (by decide) (by decide)

theorem FiniteUpTo.isFinite {s : Sign} {top : Int} {u : UnpackedFloat} (h : FiniteUpTo s top u) :
    u.isFinite = true := by
  cases h with
  | zero => rfl
  | finite => rfl

theorem FiniteUpTo.le {top : Int} {u v : UnpackedFloat} (hu : FiniteUpTo .negative top u)
    (hv : FiniteUpTo .positive top v) : u.le v = true := by
  cases hu with
  | zero => cases hv <;> rfl
  | finite => cases hv <;> rfl

/-- From the negative of a number to the number there is a range with finite bounds, and it is not
empty. -/
theorem range_of_finiteUpTo {x : Float} (h : FiniteUpTo .positive 971 x.toModel.unpack) :
    (-x).isFinite = true ∧ x.isFinite = true ∧ -x ≤ x := by
  have hneg : FiniteUpTo .negative 971 (-x).toModel.unpack := h.neg
  exact ⟨hneg.isFinite, h.isFinite, le_iff.2 (hneg.le h)⟩

end Camouflage.Binary64
