/-
Camouflage/Decimal/Reading.lean

Numbers in text.  Whole numbers are decimal digits behind an optional plus sign
and must fit their width.  Other numbers are digits with at most one point, at
least one digit, an optional sign and an optional exponent, rounded once to the
nearest binary64 number; `inf`, `infinity` and `nan` are numbers too, in any
case.
-/
import Camouflage.Text.Blank

namespace Camouflage.Decimal

/-- The value of a digit in a base of at most sixteen. -/
def digitValue? (base : Nat) (c : Char) : Option Nat :=
  let n := c.toNat
  let v? :=
    if 48 ≤ n ∧ n ≤ 57 then some (n - 48)
    else if 97 ≤ n ∧ n ≤ 102 then some (n - 87)
    else if 65 ≤ n ∧ n ≤ 70 then some (n - 55)
    else none
  v?.filter (· < base)

/-- Whether a character is a decimal digit. -/
def isDigit (c : Char) : Bool := (digitValue? 10 c).isSome

/-- The number that digits of a base denote, after those of `acc`. -/
def digitsFrom? (base : Nat) (acc : Nat) : Word → Option Nat
  | [] => some acc
  | c :: rest =>
    match digitValue? base c with
    | some v => digitsFrom? base (acc * base + v) rest
    | none => none

/-- The number that one or more digits of a base denote. -/
def digits? (base : Nat) : Word → Option Nat
  | [] => none
  | w => digitsFrom? base 0 w

/-- A whole number below a limit: digits behind an optional plus sign. -/
def whole? (limit : Nat) (w : Word) : Option Nat :=
  let body := match w with
    | '+' :: rest => rest
    | _ => w
  (digits? 10 body).filter (· < limit)

/-- The binary64 number nearest to `units · 10 ^ exponent`.  Far beyond the range the answer is
known without computing the power. -/
def nearest (units : Nat) (exponent : Int) : Float :=
  if units = 0 then 0.0
  else
    let leading := exponent + (toString units).length
    if leading > 400 then 1.0 / 0.0
    else if leading < -400 then 0.0
    else if exponent < 0 then Float.ofScientific units true exponent.natAbs
    else Float.ofScientific units false exponent.natAbs

/-- An exponent: an optional sign and digits. -/
def exponent? : Word → Option Int
  | '+' :: rest => (digits? 10 rest).map Int.ofNat
  | '-' :: rest => (digits? 10 rest).map fun n => -(Int.ofNat n)
  | w => (digits? 10 w).map Int.ofNat

/-- Digits with at most one point and an optional exponent. -/
def unsigned? (w : Word) : Option Float :=
  let whole := w.takeWhile isDigit
  let rest := w.dropWhile isDigit
  let (fraction, rest) := match rest with
    | '.' :: rest => (rest.takeWhile isDigit, rest.dropWhile isDigit)
    | _ => ([], rest)
  let finish (e : Int) : Option Float :=
    (digits? 10 (whole ++ fraction)).map fun units => nearest units (e - fraction.length)
  match rest with
  | [] => finish 0
  | c :: rest => if c = 'e' ∨ c = 'E' then (exponent? rest).bind finish else none

/-- Whether a text is a word of lower case letters, in any case. -/
def spells (name : String) (w : Word) : Bool := w.map Char.toLower = name.toList

/-- A number behind an optional sign. -/
def float? (w : Word) : Option Float :=
  let (negative, body) := match w with
    | '-' :: rest => (true, rest)
    | '+' :: rest => (false, rest)
    | _ => (false, w)
  let value? :=
    if spells "inf" body || spells "infinity" body then some (1.0 / 0.0)
    else if spells "nan" body then some (0.0 / 0.0)
    else unsigned? body
  value?.map fun x => if negative then -x else x

end Camouflage.Decimal
