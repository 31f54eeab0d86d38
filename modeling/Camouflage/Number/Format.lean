/-
Camouflage/Number/Format.lean

The binary64 number format.  Below the sign bit a number has eleven bits that
select a power of two and 52 bits that select one of the equal steps up to the
next power.  The lowest selection counts the steps from zero; the highest holds
infinity and, above it, what is undefined.
-/
namespace Camouflage.Binary64

/-- The weight of the sign bit. -/
def signBit : Nat := 0x8000000000000000

/-- The bits of infinity. -/
def infinityBits : Nat := 0x7FF0000000000000

/-- The number of steps from one power of two to the next. -/
def stepCount : Nat := 0x10000000000000

/-- The bits below the sign bit. -/
def magnitude (x : Float) : Nat := x.toBits.toNat % signBit

/-- Whether the sign bit is set. -/
def isSigned (x : Float) : Bool := signBit ≤ x.toBits.toNat

/-- Mantissa and exponent of two of the number with the given bits below the sign bit. -/
def parts (magnitude : Nat) : Nat × Int :=
  let steps := magnitude % stepCount
  let selected := magnitude / stepCount
  if selected = 0 then (steps, -1074) else (stepCount + steps, (selected : Int) - 1075)

end Camouflage.Binary64
