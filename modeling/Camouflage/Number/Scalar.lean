/-
Camouflage/Number/Scalar.lean

The arithmetic a walk needs.  Positions, headings, lengths and angles are
values of some type with ordered arithmetic (`Scalar`), directions (`Compass`)
and draws from random words (`Sampling`).  The program runs on binary64; the
same definitions over exact numbers say what it computes before rounding.

The classes carry operations only.  What a theorem needs of them it states, so
that it holds for every type of numbers with that property.
-/
namespace Camouflage

/-- Ordered arithmetic. -/
class Scalar (α : Type) extends Add α, Sub α, Mul α, Neg α where
  /-- a whole number -/
  ofNat : Nat → α
  /-- half a number -/
  half : α → α
  /-- the distance to zero -/
  abs : α → α
  /-- strictly smaller -/
  less : α → α → Bool
  /-- smaller or equal -/
  atMost : α → α → Bool
  /-- the remainder that is not negative -/
  remainder : α → α → α
  /-- neither infinite nor undefined -/
  isFinite : α → Bool
  /-- how the number is written in messages -/
  numeral : α → String

/-- The direction of a heading in degrees. -/
class Compass (α : Type) where
  cosine : α → α
  sine : α → α

/-- Numbers made from random words. -/
class Sampling (α : Type) where
  /-- the number between two bounds, both included, that a random word stands for -/
  between : α → α → UInt64 → α
  /-- a number between two bounds; it counts only if it is below the second one -/
  upTo : α → α → UInt64 → α
  /-- the largest half width of a range, up to the given one, that `between` can serve -/
  halfWidth : α → α

end Camouflage
