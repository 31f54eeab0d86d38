/-
Camouflage/Decimal/Layout.lean

How digits are laid out.  The three places that print numbers (messages, JSON
and config files) agree on the digits, the shortest that read back, and differ
only in the values of one record, `Layout`.
-/
import Camouflage.Decimal.Shortest

namespace Camouflage.Decimal

/-- The decisions of a number format. -/
structure Layout where
  /-- the decimal exponents written without an exponent part, from the first up to but not
  including the second; `none` for all of them -/
  positional : Option (Int × Int)
  /-- what follows a whole number -/
  wholeMark : String
  /-- what stands before an exponent that is not negative -/
  plus : String
  nan : String
  infinity : String

namespace Layout

/-- Digits with a point after the first `point` of them. -/
def positionalForm (l : Layout) (digits : String) (point : Int) : String :=
  let n : Int := digits.length
  if point ≤ 0 then
    "0." ++ String.ofList (List.replicate (-point).toNat '0') ++ digits
  else if n ≤ point then
    digits ++ String.ofList (List.replicate (point - n).toNat '0') ++ l.wholeMark
  else
    String.ofList (digits.toList.take point.toNat) ++ "." ++
      String.ofList (digits.toList.drop point.toNat)

/-- One digit, the others behind a point, and the exponent of the first. -/
def exponentForm (l : Layout) (digits : String) (exponent : Int) : String :=
  let mantissa :=
    match digits.toList with
    | first :: second :: rest => String.ofList (first :: '.' :: second :: rest)
    | _ => digits
  mantissa ++ "e" ++ (if exponent < 0 then "-" else l.plus) ++ toString exponent.natAbs

/-- The text of a positive number given by its digits. -/
def positive (l : Layout) (d : Digits) : String :=
  let digits := toString d.units
  let exponent : Int := d.exponent + digits.length - 1
  match l.positional with
  | none => l.positionalForm digits (exponent + 1)
  | some (first, limit) =>
    if first ≤ exponent ∧ exponent < limit then l.positionalForm digits (exponent + 1)
    else l.exponentForm digits exponent

/-- The text of a number. -/
def render (l : Layout) (x : Float) : String :=
  let magnitude := Binary64.magnitude x
  let sign := if Binary64.isSigned x then "-" else ""
  if Binary64.infinityBits < magnitude then l.nan
  else if magnitude = Binary64.infinityBits then sign ++ l.infinity
  else if magnitude = 0 then sign ++ "0" ++ l.wholeMark
  else sign ++ l.positive (shortest magnitude)

end Layout

end Camouflage.Decimal
