/-
Camouflage/Yaml/Unquoted.lean

Scalars without quotes.  A plain scalar ends before a comment, before a colon
with a gap behind it, at a document marker, where the indentation falls back,
and in a flow collection before its punctuation.  Its lines are folded like
those of a quoted scalar.

A block scalar is a run of lines with a common indentation, which is given by a
digit in its header or found from its first line that is not empty.  A literal
block keeps its line ends; a folded one joins lines that do not begin with a
blank.  What happens to the line ends behind the last line is its chomping.
-/
import Camouflage.Yaml.Quoted

namespace Camouflage.Yaml

namespace Plain

/-! ### Plain scalars -/

/-- Whether a character is punctuation of a flow collection. -/
def isFlowMark (c : Char) : Bool := c = ',' || c = '[' || c = ']' || c = '{' || c = '}'

/-- Whether a plain scalar ends before a character, given what follows it. -/
def endsBefore (flow : Bool) (c : Char) (rest : Word) : Bool :=
  (c = ':' && atGap rest) || (flow && isFlowMark c)

/-- Whether a colon stands where a flow collection cannot have one. -/
def isStrayColon (flow : Bool) (c : Char) (rest : Word) : Bool :=
  flow && c = ':' && rest.head?.any fun d => isFlowMark d || d = '?'

/-- Reads on in a plain scalar whose continuation lines must reach the column `indent`.  Also tells
whether line ends were read behind the scalar. -/
def scan (flow : Bool) (indent : Nat) (acc : Word) (pending : Pending) (at_ : Cursor) :
    Except Fault (Word × Cursor × Bool) :=
  let finish : Except Fault (Word × Cursor × Bool) := .ok (acc.reverse, at_, pending.hasBreak)
  match _h : at_.rest with
  | [] => finish
  | c :: rest =>
    if isSpacing c then
      if pending.hasBreak && at_.column < indent && c = '\t' then
        at_.fail "found a tab character that violates indentation"
      else scan flow indent acc (pending.addSpacing c) (at_.past c rest)
    else if isBreak c then scan flow indent acc (pending.addBreak c) (at_.past c rest)
    else if pending.isSome && ((!flow && at_.column < indent) || at_.atMarker || c = '#') then
      finish
    else if isStrayColon flow c rest then at_.fail "found unexpected ':'"
    else if endsBefore flow c rest then finish
    else scan flow indent (c :: pending.join acc) .none (at_.past c rest)
termination_by at_.rest.length
decreasing_by
  all_goals simp only [_h, Cursor.rest_past, List.length_cons]
  all_goals omega

end Plain

namespace Block

/-! ### Block scalars -/

/-- What happens to the line ends behind the last line. -/
inductive Chomping
  /-- none stays -/
  | strip
  /-- one stays -/
  | clip
  /-- all stay -/
  | keep

/-- Skips characters as long as a condition holds. -/
def skipWhile (p : Char → Bool) (at_ : Cursor) : Cursor :=
  at_.advance (at_.rest.takeWhile p).length

/-- An indentation digit of a header. -/
def indentDigit? (at_ : Cursor) : Except Fault (Option Nat × Cursor) :=
  match at_.rest with
  | c :: _ =>
    match Decimal.digitValue? 10 c with
    | some 0 => at_.fail "found an indentation indicator equal to 0"
    | some n => .ok (some n, at_.advance 1)
    | none => .ok (none, at_)
  | [] => .ok (none, at_)

/-- A chomping mark of a header. -/
def chomping? (at_ : Cursor) : Option Chomping × Cursor :=
  match at_.rest with
  | '+' :: _ => (some .keep, at_.advance 1)
  | '-' :: _ => (some .strip, at_.advance 1)
  | _ => (none, at_)

/-- The header behind the bar or the angle: chomping and indentation in either order, blanks, a
comment and a line end. -/
def header (at_ : Cursor) : Except Fault (Chomping × Option Nat × Cursor) := do
  let (chomping, at_) := chomping? at_
  let (indent, at_) ← indentDigit? at_
  let (chomping, at_) := match chomping with
    | some c => (some c, at_)
    | none => if indent.isSome then chomping? at_ else (none, at_)
  let at_ := skipWhile isSpacing at_
  let at_ := if at_.rest.head? = some '#' then skipWhile (fun c => !isBreak c) at_ else at_
  let chomping := chomping.getD .clip
  match at_.rest with
  | [] => return (chomping, indent, at_)
  | c :: rest =>
    if isBreak c then return (chomping, indent, at_.past c rest)
    else at_.fail "did not find expected comment or line break"

/-- Skips indentation and empty lines.  With an indentation to reach, no more spaces than that are
skipped; without one, all are, and the answer tells the largest number of them in a line. -/
def skipEmpty (indent : Option Nat) (most : Nat) (ends : Word) (at_ : Cursor) :
    Except Fault (Word × Nat × Cursor) :=
  match _h : at_.rest with
  | [] => .ok (ends, max most at_.column, at_)
  | c :: rest =>
    let short := indent.all fun n => at_.column < n
    if c = ' ' && short then skipEmpty indent most ends (at_.past c rest)
    else if c = '\t' && short then
      at_.fail "found a tab character where an indentation space is expected"
    else if isBreak c then
      skipEmpty indent (max most at_.column) (c :: ends) (at_.past c rest)
    else .ok (ends, max most at_.column, at_)
termination_by at_.rest.length
decreasing_by
  all_goals simp only [_h, Cursor.rest_past, List.length_cons]
  all_goals omega

/-- Reads the lines of a block scalar.  `acc` is the text so far, last character first; `first` is
the line end behind its last line and `ends` are those of the empty lines after that.  The fuel is
the number of lines there can be. -/
def lines (literal : Bool) (indent : Nat) (acc : Word) (first : Option Char) (ends : Word)
    (afterBlank : Bool) (at_ : Cursor) :
    Nat → Except Fault (Word × Option Char × Word × Cursor)
  | 0 => .ok (acc, first, ends, at_)
  | fuel + 1 =>
    match at_.rest with
    | [] => .ok (acc, first, ends, at_)
    | c :: _ =>
      if at_.column != indent then .ok (acc, first, ends, at_)
      else do
        let blank := isSpacing c
        let folded := !literal && first = some '\n' && !afterBlank && !blank
        let acc :=
          if folded then (if ends.isEmpty then ' ' :: acc else ends ++ acc)
          else ends ++ (first.toList ++ acc)
        let line := at_.rest.takeWhile fun c => !isBreak c
        let at_ := at_.advance line.length
        let acc := line.reverse ++ acc
        match at_.rest with
        | [] => return (acc, none, [], at_)
        | c :: rest =>
          let (ends, _, at_) ← skipEmpty (some indent) 0 [] (at_.past c rest)
          lines literal indent acc (some c) ends blank at_ fuel

/-- Reads a block scalar behind its bar or angle, in a block indented by `outer`. -/
def scan (literal : Bool) (outer : Int) (at_ : Cursor) : Except Fault (Word × Cursor) := do
  let (chomping, digit, at_) ← header at_
  let given := digit.map fun n => (max outer 0).toNat + n
  let (ends, most, at_) ← skipEmpty given 0 [] at_
  let indent := given.getD (max most (max (outer + 1) 1).toNat)
  let (acc, first, ends, at_) ← lines literal indent [] none ends false at_ (at_.rest.length + 1)
  let acc := match chomping with
    | .strip => acc
    | .clip => first.toList ++ acc
    | .keep => ends ++ (first.toList ++ acc)
  return (acc.reverse, at_)

end Block

end Camouflage.Yaml
