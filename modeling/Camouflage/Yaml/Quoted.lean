/-
Camouflage/Yaml/Quoted.lean

Scalars between quotes.  Blanks around a line end inside are dropped; a single
line end becomes a space, of several the first is dropped.  In double quotes a
backslash stands for a character by name or number, and at the end of a line it
joins the lines without a space.

The reader goes from character to character with what it has seen since the
last character that is neither blank nor line end (`Pending`).  Plain scalars
fold their lines in the same way.
-/
import Camouflage.Decimal.Reading
import Camouflage.Yaml.Cursor

namespace Camouflage.Yaml

/-- What stands between the text so far and the next character of it. -/
inductive Pending
  /-- nothing but spaces and tabs, last first -/
  | spacing (blanks : Word)
  /-- line ends: the first, unless it was escaped, and the others, last first -/
  | breaks (first : Option Char) (more : Word)

namespace Pending

/-- Nothing yet. -/
def none : Pending := spacing []

/-- What is pending, after a space or tab more. -/
def addSpacing (c : Char) : Pending → Pending
  | spacing blanks => spacing (c :: blanks)
  | breaks first more => breaks first more

/-- What is pending, after a line end more. -/
def addBreak (c : Char) : Pending → Pending
  | spacing _ => breaks (some c) []
  | breaks first more => breaks first (c :: more)

/-- Whether a line end is pending. -/
def hasBreak : Pending → Bool
  | spacing _ => false
  | breaks _ _ => true

/-- Whether anything is pending. -/
def isSome : Pending → Bool
  | spacing blanks => !blanks.isEmpty
  | breaks _ _ => true

/-- Puts what is pending, folded, on a text whose last character comes first. -/
def join (acc : Word) : Pending → Word
  | spacing blanks => blanks ++ acc
  | breaks (some '\n') [] => ' ' :: acc
  | breaks (some '\n') more => more ++ acc
  | breaks (some c) more => more ++ c :: acc
  | breaks Option.none more => more ++ acc

end Pending

namespace Quoted

/-! ### Escapes -/

/-- The characters that an escape names by a letter. -/
def named : List (Char × Char) :=
  [('0', '\x00'), ('a', '\x07'), ('b', '\x08'), ('t', '\t'), ('\t', '\t'), ('n', '\n'),
   ('v', '\x0b'), ('f', '\x0c'), ('r', '\r'), ('e', '\x1b'), (' ', ' '), ('\x22', '\x22'),
   ('/', '/'), ('\\', '\\'), ('N', '\u0085'), ('_', '\u00a0'), ('L', '\u2028'), ('P', '\u2029')]

/-- The number of hexadecimal digits behind a letter that stands for a character number. -/
def digitCount? : Char → Option Nat
  | 'x' => some 2
  | 'u' => some 4
  | 'U' => some 8
  | _ => none

/-- The character of a number, unless it is a surrogate or too large. -/
def character? (n : Nat) : Option Char := if n.isValidChar then some (Char.ofNat n) else none

/-- The character that an escape stands for, given the text behind the backslash, and how many
characters the escape takes there. -/
def escape? : Word → Option (Char × Nat)
  | [] => none
  | c :: rest =>
    match named.lookup c with
    | some d => some (d, 1)
    | none => do
      let count ← digitCount? c
      let digits := rest.take count
      let n ← if digits.length = count then Decimal.digits? 16 digits else none
      let d ← character? n
      return (d, 1 + count)

/-! ### Reading -/

/-- Reads on behind the opening quote; `acc` is the text so far, last character first. -/
def scan (single : Bool) (acc : Word) (pending : Pending) (at_ : Cursor) :
    Except Fault (Word × Cursor) :=
  match _h : at_.rest with
  | [] => at_.fail "found unexpected end of stream inside a quoted scalar"
  | c :: rest =>
    if at_.atMarker then at_.fail "found unexpected document marker inside a quoted scalar"
    else if isSpacing c then scan single acc (pending.addSpacing c) (at_.past c rest)
    else if isBreak c then scan single acc (pending.addBreak c) (at_.past c rest)
    else
      let acc := pending.join acc
      if single then
        if c = '\x27' then
          if rest.head? = some '\x27' then
            scan single ('\x27' :: acc) .none ((at_.past c rest).advance 1)
          else .ok (acc.reverse, at_.past c rest)
        else scan single (c :: acc) .none (at_.past c rest)
      else if c = '\x22' then .ok (acc.reverse, at_.past c rest)
      else if c = '\\' then
        if rest.head?.any isBreak then
          scan single acc (.breaks none []) ⟨rest.drop 1, at_.line + 1, 0, 0⟩
        else
          match escape? rest with
          | some (e, count) =>
            scan single (e :: acc) .none ((at_.past c rest).advance count)
          | none => at_.fail "found unknown escape character"
      else scan single (c :: acc) .none (at_.past c rest)
termination_by at_.rest.length
decreasing_by
  all_goals simp only [_h, Cursor.rest_past, Cursor.rest_advance, List.length_cons,
    List.length_drop]
  all_goals omega

end Quoted

end Camouflage.Yaml
