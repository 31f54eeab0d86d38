/-
Camouflage/Palette/Color.lean

Colors and their text.  A color is three 8-bit channels, written `#rrggbb` in
lower case; reading also takes the short form `#rgb`, upper case digits and
blanks around the whole.

Reading first looks at every character and only then at how many there are, so
a text with both faults is reported for its first wrong character.
-/
import Camouflage.Text.Blank

namespace Camouflage

/-- An 8-bit color. -/
structure Color where
  red : UInt8
  green : UInt8
  blue : UInt8
deriving DecidableEq, Inhabited

/-- Why a text is not a color; each case carries the trimmed text. -/
inductive ColorFault
  /-- the text does not begin with the number sign -/
  | missingMark (text : Word)
  /-- the first character after the mark that is no hexadecimal digit -/
  | badDigit (digit : Char) (text : Word)
  /-- neither three nor six digits -/
  | digitCount (text : Word) (count : Nat)
deriving DecidableEq

namespace ColorFault

/-- The wording of a fault. -/
def message : ColorFault → String
  | missingMark text => "color '" ++ String.ofList text ++ "' must start with '#'"
  | badDigit digit text =>
    "invalid hex character '" ++ digit.toString ++ "' in color '" ++ String.ofList text ++ "'"
  | digitCount text count =>
    "color '" ++ String.ofList text ++ "' has " ++ toString count ++
      " hex digits, expected 3 or 6"

end ColorFault

namespace Color

/-! ### Hexadecimal digits -/

/-- The lower case digit of a value below sixteen. -/
def hexDigit (n : Nat) : Char :=
  if n < 10 then Char.ofNat (48 + n) else Char.ofNat (87 + n)

/-- The value of a hexadecimal digit of either case. -/
def hexValue? (c : Char) : Option Nat :=
  let n := c.toNat
  if 48 ≤ n ∧ n ≤ 57 then some (n - 48)
  else if 97 ≤ n ∧ n ≤ 102 then some (n - 87)
  else if 65 ≤ n ∧ n ≤ 70 then some (n - 55)
  else none

/-- The value of a hexadecimal digit, and zero of anything else. -/
def hexValue (c : Char) : Nat := (hexValue? c).getD 0

/-! ### Writing and reading -/

/-- The two digits of a channel. -/
def channelDigits (x : UInt8) : Word := [hexDigit (x.toNat / 16), hexDigit (x.toNat % 16)]

/-- The characters of the six-digit form. -/
def toWord (c : Color) : Word :=
  '#' :: (channelDigits c.red ++ channelDigits c.green ++ channelDigits c.blue)

/-- The six-digit form, in lower case. -/
def text (c : Color) : String := String.ofList c.toWord

/-- The channel that two digits denote. -/
def channel (high low : Char) : UInt8 := UInt8.ofNat (16 * hexValue high + hexValue low)

/-- Reads a color in the six-digit or the three-digit form. -/
def parse (input : Word) : Except ColorFault Color :=
  let body := Text.trim input
  match body with
  | '#' :: digits =>
    match digits.find? fun c => (hexValue? c).isNone with
    | some bad => .error (.badDigit bad body)
    | none =>
      match digits with
      | [r, g, b] => .ok ⟨channel r r, channel g g, channel b b⟩
      | [r, r', g, g', b, b'] => .ok ⟨channel r r', channel g g', channel b b'⟩
      | _ => .error (.digitCount body digits.length)
  | _ => .error (.missingMark body)

end Color

end Camouflage
