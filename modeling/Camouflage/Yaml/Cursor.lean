/-
Camouflage/Yaml/Cursor.lean

Places in a document.  A document is read as a list of characters whose line
ends have been made alike, so what is left to read, together with where in which
line that begins, is all a reader has to know (`Cursor`).  Only two line ends keep their
own character, the line and the paragraph separator; they are never folded.
-/
import Camouflage.Text.Blank

namespace Camouflage.Yaml

/-- Whether a character ends a line. -/
def isBreak (c : Char) : Bool := c = '\n' || c = '\u2028' || c = '\u2029'

/-- Whether a character is a space or a tab. -/
def isSpacing (c : Char) : Bool := c = ' ' || c = '\t'

/-- Whether a text begins with a space, a tab or a line end, or is at its end. -/
def atGap : Word → Bool
  | [] => true
  | c :: _ => isSpacing c || isBreak c

/-- Whether a character may stand in a document. -/
def isReadable (c : Char) : Bool :=
  let n := c.toNat
  n = 0x9 || n = 0xA || n = 0xD || n = 0x85 || (0x20 ≤ n && n ≤ 0x7E) ||
    (0xA0 ≤ n && n ≤ 0xD7FF) || (0xE000 ≤ n && n ≤ 0xFFFD) || 0x10000 ≤ n

/-- The text with one character for every line end. -/
def normalizeBreaks : Word → Word
  | [] => []
  | '\r' :: '\n' :: rest => '\n' :: normalizeBreaks rest
  | '\r' :: rest => '\n' :: normalizeBreaks rest
  | '\u0085' :: rest => '\n' :: normalizeBreaks rest
  | c :: rest => c :: normalizeBreaks rest

/-- Why a document cannot be read, and where. -/
structure Fault where
  problem : String
  line : Nat
  column : Nat

/-- The wording of a fault, with lines and columns counted from one. -/
def Fault.message (fault : Fault) : String :=
  fault.problem ++ " at line " ++ toString (fault.line + 1) ++ " column " ++
    toString (fault.column + 1)

/-- What is left to read, and where that begins. -/
structure Cursor where
  rest : Word
  line : Nat := 0
  column : Nat := 0
  /-- the size of the line in front of the cursor, in bytes -/
  offset : Nat := 0

namespace Cursor

/-- A fault at the cursor. -/
def fail {α : Type} (at_ : Cursor) (problem : String) : Except Fault α :=
  .error ⟨problem, at_.line, at_.column⟩

/-- The cursor behind a first character, in front of `rest`. -/
def past (at_ : Cursor) (c : Char) (rest : Word) : Cursor :=
  if isBreak c then ⟨rest, at_.line + 1, 0, 0⟩
  else ⟨rest, at_.line, at_.column + 1, at_.offset + c.utf8Size⟩

@[simp] theorem rest_past (at_ : Cursor) (c : Char) (rest : Word) :
    (at_.past c rest).rest = rest := by
  unfold past
  split <;> rfl

/-- The cursor some characters further on in the same line. -/
def advance (at_ : Cursor) (count : Nat) : Cursor :=
  ⟨at_.rest.drop count, at_.line, at_.column + count,
    (at_.rest.take count).foldl (fun offset c => offset + c.utf8Size) at_.offset⟩

@[simp] theorem rest_advance (at_ : Cursor) (count : Nat) :
    (at_.advance count).rest = at_.rest.drop count := rfl

/-- Whether a document marker, three dashes or three points alone, begins at the cursor. -/
def isMarker (at_ : Cursor) (mark : Char) : Bool :=
  at_.column = 0 &&
    match at_.rest with
    | a :: b :: c :: rest => a = mark && b = mark && c = mark && atGap rest
    | _ => false

/-- Whether any document marker begins at the cursor. -/
def atMarker (at_ : Cursor) : Bool := at_.isMarker '-' || at_.isMarker '.'

end Cursor

end Camouflage.Yaml
