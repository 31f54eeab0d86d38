/-
Camouflage/Decimal/Shortest.lean

The fewest decimal digits that read back as a given binary number, and of those
the nearest to it.

A positive binary64 number is `m · 2 ^ q`.  The reals that round to it form an
interval whose ends lie half a step away, and which contains its ends just when
`m` is even.  On the grid of numbers with `n` significant digits only the two
neighbours of the number can be the nearest points of the interval, so the
search tries these two for `n = 1, 2, …, 17` and stops at the first `n` with a
hit.  All comparisons are between whole numbers; nothing is rounded on the way.
-/
import Camouflage.Number.Format

namespace Camouflage.Decimal

/-- A power of ten. -/
def tenTo (n : Nat) : Nat := Nat.pow 10 n

/-- A decimal number: a whole number of units of a power of ten. -/
structure Digits where
  units : Nat
  exponent : Int
deriving DecidableEq, Inhabited

/-- The reals that round to one binary number.  All three numbers count the same
power of two; the ends belong to the interval when it is closed. -/
structure RoundingInterval where
  low : Nat
  value : Nat
  high : Nat
  exponent : Int
  closed : Bool

namespace RoundingInterval

/-- The interval of the positive number whose 63 bits below the sign are given. -/
def ofBits (bits : Nat) : RoundingInterval :=
  let (m, q) := Binary64.parts bits
  -- below a power of two the steps are half as wide, but for the lowest power
  let below := if m = Binary64.stepCount ∧ -1074 < q then 1 else 2
  { low := 4 * m - below, value := 4 * m, high := 4 * m + 2, exponent := q - 2,
    closed := m % 2 = 0 }

/-- Compares `c · 10 ^ e` with `v` units of the interval. -/
def compareAt (i : RoundingInterval) (c : Nat) (e : Int) (v : Nat) : Ordering :=
  compare ((c * tenTo e.toNat) <<< (-i.exponent).toNat)
    ((v * tenTo (-e).toNat) <<< i.exponent.toNat)

/-- Whether `c · 10 ^ e` rounds to the number. -/
def contains (i : RoundingInterval) (c : Nat) (e : Int) : Bool :=
  match i.compareAt c e i.low, i.compareAt c e i.high with
  | .gt, .lt => true
  | .eq, _ => i.closed
  | _, .eq => i.closed
  | _, _ => false

/-- The number of whole `10 ^ e` in the number. -/
def floorAt (i : RoundingInterval) (e : Int) : Nat :=
  ((i.value * tenTo (-e).toNat) <<< i.exponent.toNat) / (tenTo e.toNat <<< (-i.exponent).toNat)

/-- The exponent of the first decimal digit of the number. -/
def leading (i : RoundingInterval) : Int :=
  let guess := ((i.value.log2 : Int) + i.exponent) * 30103 / 100000
  if i.compareAt 1 (guess + 1) i.value != .gt then guess + 1
  else if i.compareAt 1 guess i.value == .gt then guess - 1
  else guess

/-- The nearest point of the grid of step `10 ^ e` that rounds to the number, if one does. -/
def onGrid? (i : RoundingInterval) (e : Int) : Option Nat :=
  let d := i.floorAt e
  match i.contains d e, i.contains (d + 1) e with
  | true, true =>
    -- the half-way point decides
    match i.compareAt (2 * d + 1) e (2 * i.value) with
    | .gt => some d
    | .lt => some (d + 1)
    | .eq => some (if d % 2 = 0 then d else d + 1)
  | true, false => some d
  | false, true => some (d + 1)
  | false, false => none

/-- The first grid with a hit, among those of `n` digits and more. -/
def search (i : RoundingInterval) (first : Int) : Nat → Nat → Digits
  | _, 0 => ⟨i.value <<< i.exponent.toNat, 0⟩
  | n, tries + 1 =>
    let e := first - n + 1
    match i.onGrid? e with
    | some units => ⟨units, e⟩
    | none => search i first (n + 1) tries

end RoundingInterval

/-- The number without trailing zeros; `fuel` bounds how many are taken off. -/
def dropZeros : Nat → Digits → Digits
  | 0, d => d
  | fuel + 1, d =>
    if d.units % 10 = 0 ∧ d.units ≠ 0 then dropZeros fuel ⟨d.units / 10, d.exponent + 1⟩ else d

/-- The shortest digits of a positive finite number given by its bits. -/
def shortest (bits : Nat) : Digits :=
  let i := RoundingInterval.ofBits bits
  dropZeros 20 (i.search i.leading 1 17)

end Camouflage.Decimal
