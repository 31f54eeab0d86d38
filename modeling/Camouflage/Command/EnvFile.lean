/-
Camouflage/Command/EnvFile.lean

Environment files: assignments `NAME=value`, one to a line, that set variables
which are not set already.  Reading stops for good at the first line that is
none of blank, comment and assignment; what was set before stays set.

A value may be quoted, also over several lines, may contain other variables as
`$NAME` or `${NAME}`, and ends at a blank outside of quotes, behind which only
a comment may follow.  A name that is assigned to is of ASCII; one behind `$`
reaches as far as there are letters and numbers of any script.
-/
import Camouflage.Table
import Camouflage.Text.Alphanumeric
import Camouflage.Text.Blank

namespace Camouflage

/-- Variables and their values. -/
abbrev Environment := Table String String

namespace EnvFile

/-! ### Lines -/

/-- What is open at a place in a line. -/
inductive LineState
  | nothing
  /-- a blank came last -/
  | blank
  /-- a backslash came last -/
  | escape
  /-- single quotes -/
  | strong
  | strongEscape
  /-- double quotes -/
  | weak
  | weakEscape
deriving DecidableEq

/-- The state behind one character more, and nothing if a comment begins with it. -/
def LineState.next? (state : LineState) (c : Char) : Option LineState :=
  let inText (otherwise : LineState) : LineState :=
    if c = '\\' then .escape
    else if c = '\x22' then .weak
    else if c = '\x27' then .strong
    else otherwise
  match state with
  | escape => some nothing
  | blank => if c = '#' then none else some (inText nothing)
  | nothing =>
    some (inText (if Text.isBlank c && c != '\n' && c != '\r' then blank else nothing))
  | weak => some (if c = '\\' then weakEscape else if c = '\x22' then nothing else weak)
  | weakEscape => some weak
  | strong => some (if c = '\\' then strongEscape else if c = '\x27' then nothing else strong)
  | strongEscape => some strong

/-- The text up to a comment, last character first, and the state at the end unless there is one. -/
def scanLine (acc : Word) (state : LineState) : Word → Word × Option LineState
  | [] => (acc, some state)
  | c :: rest =>
    match state.next? c with
    | some state => scanLine (c :: acc) state rest
    | none => (acc, none)

/-- The lines of a text, each with its line end. -/
def physicalLines : Word → List Word
  | [] => []
  | c :: rest =>
    if c = '\n' then ['\n'] :: physicalLines rest
    else
      match physicalLines rest with
      | [] => [[c]]
      | line :: others => (c :: line) :: others

/-- A line, last character first, without its line end. -/
def dropLineEnd : Word → Word
  | '\n' :: '\r' :: rest => rest
  | '\n' :: rest => rest
  | w => w

/-- Joins lines with open quotes to those that follow.  `acc` is the line so far, last character
first.  A line that stays open to the end of the text is none. -/
def joinLines (acc : Word) (state : LineState) : List Word → List (Option Word)
  | [] => if state = .nothing then [] else [none]
  | line :: rest =>
    if (Text.trimLeft (acc.reverse ++ line)).head? = some '#' then
      some [] :: joinLines [] .nothing rest
    else
      match scanLine acc state line with
      | (acc, none) => some acc.reverse :: joinLines [] .nothing rest
      | (acc, some .nothing) => some (dropLineEnd acc).reverse :: joinLines [] .nothing rest
      | (acc, some state) => joinLines acc state rest

/-! ### Values -/

/-- What a value is in the middle of. -/
inductive ValueState
  | text
  | escape
  /-- single quotes -/
  | strong
  /-- the name of a variable, last character first -/
  | name (n : Word)
  /-- the same between braces -/
  | braced (n : Word)
  /-- the blanks behind the value -/
  | ending

/-- Reads a value from a state on.  `weak` tells whether double quotes are open, `acc` is the value
so far, last character first, and `look` gives the value of a variable. -/
def scanValue (look : Word → Word) (acc : Word) (weak : Bool) :
    ValueState → Word → Option Word
  | .text, [] | .escape, [] | .ending, [] => if weak then none else some acc.reverse
  | .strong, [] | .braced _, [] => none
  | .name n, [] => if weak then none else some ((look n.reverse).reverse ++ acc).reverse
  | .ending, c :: rest =>
    if c = ' ' || c = '\t' then scanValue look acc weak .ending rest
    else if c = '#' then (if weak then none else some acc.reverse)
    else none
  | .escape, c :: rest =>
    if c = '\\' || c = '\x27' || c = '\x22' || c = '$' || c = ' ' then
      scanValue look (c :: acc) weak .text rest
    else if c = 'n' then scanValue look ('\n' :: acc) weak .text rest
    else none
  | .strong, c :: rest =>
    if c = '\x27' then scanValue look acc weak .text rest
    else scanValue look (c :: acc) weak .strong rest
  | .name n, c :: rest =>
    if Text.isAlphanumeric c then scanValue look acc weak (.name (c :: n)) rest
    else if c = '\x7b' && n.isEmpty then scanValue look acc weak (.braced []) rest
    else
      let acc := (look n.reverse).reverse ++ acc
      if c = '$' then scanValue look acc weak (.name []) rest
      else scanValue look (c :: acc) weak .text rest
  | .braced n, c :: rest =>
    if c = '\x7d' then scanValue look ((look n.reverse).reverse ++ acc) weak .text rest
    else scanValue look acc weak (.braced (c :: n)) rest
  | .text, c :: rest =>
    if c = '$' then scanValue look acc weak (.name []) rest
    else if weak then
      if c = '\x22' then scanValue look acc false .text rest
      else if c = '\\' then scanValue look acc weak .escape rest
      else scanValue look (c :: acc) weak .text rest
    else if c = '\x27' then scanValue look acc weak .strong rest
    else if c = '\x22' then scanValue look acc true .text rest
    else if c = '\\' then scanValue look acc weak .escape rest
    else if c = ' ' || c = '\t' then scanValue look acc weak .ending rest
    else scanValue look (c :: acc) weak .text rest

/-! ### Assignments -/

/-- The name at the beginning of a text, and the text behind it without leading blanks. -/
def name? (w : Word) : Option (Word × Word) :=
  let isNameChar (c : Char) : Bool := c.isAlphanum || c = '_' || c = '.'
  if w.head?.any fun c => c.isAlpha || c = '_' then
    some (w.takeWhile isNameChar, Text.trimLeft (w.dropWhile isNameChar))
  else none

/-- The text behind an equals sign, without leading blanks. -/
def equals? : Word → Option Word
  | '=' :: rest => some (Text.trimLeft rest)
  | _ => none

/-- The name and the text of the value of an assignment; `export` may stand in front of it. -/
def assignment? (line : Word) : Option (Word × Word) := do
  let (name, rest) ← name? line
  match equals? rest with
  | some value => return (name, value)
  | none =>
    if name = "export".toList then
      let (name, rest) ← name? rest
      return (name, ← equals? rest)
    else none

/-- Sets a variable unless it is set. -/
def setDefault (env : Environment) (name value : String) : Environment :=
  if env.contains name then env else env.insert name value

/-- Carries out the lines of a file up to the first that is unreadable.  `stored` are the values the
file itself has given so far. -/
def apply (env stored : Environment) : List (Option Word) → Environment
  | [] => env
  | none :: _ => env
  | some line :: rest =>
    let line := Text.trim line
    if line.isEmpty || line.head? = some '#' then apply env stored rest
    else
      match assignment? line with
      | none => env
      | some (name, text) =>
        let name := String.ofList name
        let look (n : Word) : Word :=
          let n := String.ofList n
          (((env.get? n).or (stored.get? n)).getD "").toList
        if text.isEmpty || text.head? = some '#' then
          apply (setDefault env name "") (stored.insert name "") rest
        else
          match scanValue look [] false .text text with
          | none => env
          | some value =>
            let value := String.ofList value
            apply (setDefault env name value) (stored.insert name value) rest

/-- The environment after the assignments of a file. -/
def load (env : Environment) (text : String) : Environment :=
  let w := match text.toList with
    | '\ufeff' :: rest => rest
    | w => w
  apply env .empty (joinLines [] .nothing (physicalLines w))

end EnvFile

end Camouflage
