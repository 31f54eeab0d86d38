/-
Camouflage/Export/Json.lean

JSON values and their text, with an indentation of two.  The fields of an object
are written in the order of their names, whatever order they come in.  A number
keeps a point or an exponent, and one that JSON cannot hold is null.
-/
import Camouflage.Decimal.Layout

namespace Camouflage

/-- A JSON value. -/
inductive Json
  | null
  | natural (n : Nat)
  | number (x : Float)
  | string (s : String)
  | array (items : List Json)
  | object (fields : List (String × Json))

namespace Json

/-- Numbers in JSON keep a point or an exponent. -/
def layout : Decimal.Layout :=
  { positional := some (-5, 16), wholeMark := ".0", plus := "+", nan := "null", infinity := "null" }

/-- The text of a number. -/
def numberText (x : Float) : String := if x.isFinite then layout.render x else "null"

/-- Four hexadecimal digits. -/
def hex4 (n : Nat) : String :=
  let digits := Nat.toDigits 16 n
  String.ofList (List.replicate (4 - digits.length) '0' ++ digits)

/-- A character inside a string. -/
def escape (c : Char) : String :=
  if c = '\x22' then "\\\""
  else if c = '\\' then "\\\\"
  else if c = '\n' then "\\n"
  else if c = '\r' then "\\r"
  else if c = '\t' then "\\t"
  else if c = '\x08' then "\\b"
  else if c = '\x0c' then "\\f"
  else if c.toNat < 0x20 then "\\u" ++ hex4 c.toNat
  else c.toString

/-- A string between quotes. -/
def quote (s : String) : String := s.foldl (fun out c => out ++ escape c) "\"" ++ "\""

/-- Puts a field in front of the first one whose name is not smaller. -/
def placeField (field : String × Json) : List (String × Json) → List (String × Json)
  | [] => [field]
  | other :: rest =>
    if other.1 < field.1 then other :: placeField field rest else field :: other :: rest

/-- An object with its fields in the order of their names. -/
def record (fields : List (String × Json)) : Json := object (fields.foldr placeField [])

/-- A new line with its indentation. -/
def newLine (indent : Nat) : String := "\n" ++ String.ofList (List.replicate indent ' ')

mutual

/-- Appends a value to a text. -/
def write (indent : Nat) (out : String) : Json → String
  | null => out ++ "null"
  | natural n => out ++ toString n
  | number x => out ++ numberText x
  | string s => out ++ quote s
  | array [] => out ++ "[]"
  | array (item :: items) =>
    let out := write (indent + 2) (out ++ "[" ++ newLine (indent + 2)) item
    writeItems (indent + 2) out items ++ newLine indent ++ "]"
  | object [] => out ++ "\x7b\x7d"
  | object ((name, value) :: fields) =>
    let out := out ++ "\x7b" ++ newLine (indent + 2) ++ quote name ++ ": "
    writeFields (indent + 2) (write (indent + 2) out value) fields ++ newLine indent ++ "\x7d"

/-- Appends further items, each behind a comma. -/
def writeItems (indent : Nat) (out : String) : List Json → String
  | [] => out
  | item :: items => writeItems indent (write indent (out ++ "," ++ newLine indent) item) items

/-- Appends further fields, each behind a comma. -/
def writeFields (indent : Nat) (out : String) : List (String × Json) → String
  | [] => out
  | (name, value) :: fields =>
    let out := out ++ "," ++ newLine indent ++ quote name ++ ": "
    writeFields indent (write indent out value) fields

end

/-- The text of a value. -/
def text (value : Json) : String := write 0 "" value

end Json

end Camouflage
