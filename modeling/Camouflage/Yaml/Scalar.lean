/-
Camouflage/Yaml/Scalar.lean

Scalars.  A scalar keeps its text and what else it can be taken for: a whole
number, a number, or a string.  What is quoted is a string and nothing else.
What is plain is classified by its text: null, a truth value, an integer or a
number, and a string if it is none of these.

Digits behind a leading zero are a string to a reader of any value, no whole
number, and still a number to a reader that wants one.
-/
import Camouflage.Decimal.Layout
import Camouflage.Decimal.Reading

namespace Camouflage.Yaml

/-- A scalar: its text, and its value for a reader that wants a whole number, a number or a
string of its own accord. -/
structure Scalar where
  text : Word
  natural : Option Nat := none
  number : Option Float := none
  isString : Bool := true

namespace Plain

/-! ### What a plain text stands for -/

/-- The spellings of null, besides the empty text. -/
def nullWords : List Word := ["~", "null", "Null", "NULL"].map String.toList

/-- The spellings of the truth values. -/
def truthWords : List Word :=
  ["true", "True", "TRUE", "false", "False", "FALSE"].map String.toList

/-- Whether a text, its sign aside, is digits behind a leading zero. -/
def isPadded (w : Word) : Bool :=
  let body := match w with
    | '-' :: rest => rest
    | '+' :: rest => rest
    | _ => w
  match body with
  | '0' :: d :: rest => (d :: rest).all Decimal.isDigit
  | _ => false

/-- Digits in a base given by their mark, or decimal digits. -/
def magnitude? : Word → Option Nat
  | '0' :: 'x' :: rest => Decimal.digits? 16 rest
  | '0' :: 'o' :: rest => Decimal.digits? 8 rest
  | '0' :: 'b' :: rest => Decimal.digits? 2 rest
  | w => Decimal.digits? 10 w

/-- The whole number that a text without a minus sign stands for. -/
def natural? (w : Word) : Option Nat :=
  if isPadded w then none
  else
    match w with
    | '+' :: rest => magnitude? rest
    | _ => magnitude? w

/-- Whether a text is an integer, of any size up to 128 bits and either sign. -/
def isInteger (w : Word) : Bool :=
  match w with
  | '-' :: rest =>
    !isPadded w && ((magnitude? rest).any fun n => n ≤ 0x80000000000000000000000000000000)
  | _ => (natural? w).any fun n => n ≤ 0xFFFFFFFFFFFFFFFFFFFFFFFFFFFFFFFF

/-- The spellings of infinity, without a sign. -/
def infinityWords : List Word := [".inf", ".Inf", ".INF"].map String.toList

/-- The spellings of the undefined number. -/
def nanWords : List Word := [".nan", ".NaN", ".NAN"].map String.toList

/-- The number that a text stands for; a number beyond the range is none. -/
def number? (w : Word) : Option Float :=
  let unsigned := match w with
    | '+' :: rest => rest
    | _ => w
  if w.head? = some '+' && (unsigned.head? = some '+' || unsigned.head? = some '-') then none
  else if unsigned ∈ infinityWords then some (1.0 / 0.0)
  else if w.head? = some '-' && w.tail ∈ infinityWords then some (-1.0 / 0.0)
  else if w ∈ nanWords then some (0.0 / 0.0)
  else (Decimal.float? unsigned).filter Float.isFinite

/-- Whether a reader of any value takes a plain text for a string. -/
def isString (w : Word) : Bool :=
  !(w.isEmpty || w ∈ nullWords || w ∈ truthWords || isInteger w) &&
    (isPadded w || (number? w).isNone)

end Plain

namespace Scalar

/-- The scalar of a plain text. -/
def plain (w : Word) : Scalar := ⟨w, Plain.natural? w, Plain.number? w, Plain.isString w⟩

/-- The scalar of a quoted text, and of any string. -/
def string (w : Word) : Scalar := { text := w }

/-- Numbers in documents keep a point or an exponent. -/
def layout : Decimal.Layout :=
  { positional := some (-5, 16), wholeMark := ".0", plus := "", nan := ".nan", infinity := ".inf" }

/-- The scalar of a whole number. -/
def ofNat (n : Nat) : Scalar :=
  let w := (toString n).toList
  ⟨w, some n, Plain.number? w, false⟩

/-- The scalar of a number. -/
def ofFloat (x : Float) : Scalar := ⟨(layout.render x).toList, none, some x, false⟩

/-- Whether nothing is written where a value could stand. -/
def isBlank (s : Scalar) : Bool := s.text.isEmpty && !s.isString

end Scalar

end Camouflage.Yaml
