/-
Camouflage/Yaml/Printer.lean

Writing documents, in block style with an indentation of two.  Numbers are
plain.  A string gets the first style that keeps it: a literal block if it has
line ends, plain if a reader takes it for a string then, single quotes, and
double quotes with escapes for what no other style can hold.

Every entry ends its line; a literal block that ends in line ends has done so
itself.
-/
import Camouflage.Yaml.Node

namespace Camouflage.Yaml

namespace Style

/-! ### What a string holds -/

/-- Whether a character can be written as it is. -/
def isPrintable (c : Char) : Bool :=
  let n := c.toNat
  n = 0xA || (0x20 ≤ n && n ≤ 0x7E) ||
    (0xA0 ≤ n && n != 0xFEFF && n != 0xFFFE && n != 0xFFFF)

/-- Whether two kinds of characters stand next to each other somewhere. -/
def hasPair (p q : Char → Bool) : Word → Bool
  | a :: b :: rest => (p a && q b) || hasPair p q (b :: rest)
  | _ => false

/-- Whether a character is a space. -/
def isSpace (c : Char) : Bool := c = ' '

/-- Whether no style but double quotes can hold a string. -/
def isSpecial (w : Word) : Bool := w.any (fun c => !isPrintable c) || hasPair isSpace isBreak w

/-- The characters that a plain string cannot begin with. -/
def firstIndicators : Word := "#,[]{}&*!|>'\x22%@\x60".toList

/-- Whether a colon with a gap behind it, or a number sign with one in front, stands in a text. -/
def hasInnerIndicator : Word → Bool
  | a :: b :: rest =>
    (b = ':' && atGap rest) || (b = '#' && atGap [a]) || hasInnerIndicator (b :: rest)
  | _ => false

/-- Whether a string has marks that a reader would not take as part of it. -/
def hasIndicators (w : Word) : Bool :=
  w.take 3 = ['-', '-', '-'] || w.take 3 = ['.', '.', '.'] || hasInnerIndicator w ||
    match w with
    | [] => false
    | c :: rest => c ∈ firstIndicators || ((c = '-' || c = '?' || c = ':') && atGap rest)

/-- Whether a character is a space or ends a line. -/
def isEdge (c : Char) : Bool := isSpace c || isBreak c

/-- Whether a plain scalar can hold a string that a reader takes for one. -/
def allowsPlain (w : Word) : Bool :=
  !(w.head?.any isEdge || w.getLast?.any isEdge || w.any isBreak || isSpecial w || hasIndicators w)

/-- Whether single quotes can hold a string. -/
def allowsSingle (w : Word) : Bool := !(isSpecial w || hasPair isBreak isSpace w)

/-- Whether a literal block can hold a string. -/
def allowsLiteral (w : Word) : Bool :=
  !(w.isEmpty || isSpecial w || w.getLast?.any isSpace)

/-- Whether a string would be read as something else if it were plain, or looks like a number. -/
def isAmbiguous (w : Word) : Bool := !Plain.isString w || Plain.isPadded w

/-! ### The styles -/

/-- Spaces. -/
def pad (n : Nat) : Word := List.replicate n ' '

/-- The digit behind the bar of a literal block that begins with a space or a line end. -/
def indentHint (w : Word) : Word := if w.head?.any isEdge then ['2'] else []

/-- The chomping mark that keeps the line ends behind a text. -/
def chompHint (w : Word) : Word :=
  match w.reverse with
  | [] => ['-']
  | c :: rest =>
    if !isBreak c then ['-']
    else
      match rest with
      | [] => ['+']
      | d :: _ => if isBreak d then ['+'] else []

/-- The lines of a literal block; every line that is not empty is indented. -/
def literalLines (indent : Nat) (atStart : Bool) : Word → Word
  | [] => []
  | c :: rest =>
    if isBreak c then c :: literalLines indent true rest
    else if atStart then pad indent ++ c :: literalLines indent false rest
    else c :: literalLines indent false rest

/-- A literal block. -/
def literal (indent : Nat) (w : Word) : Word :=
  '|' :: (indentHint w ++ chompHint w ++ '\n' :: literalLines indent true w)

/-- The content of a single-quoted string, each quote doubled. -/
def singleContent (indent : Nat) (afterBreak : Bool) : Word → Word
  | [] => if afterBreak then pad indent else []
  | c :: rest =>
    if isBreak c then c :: singleContent indent true rest
    else
      (if afterBreak then pad indent else []) ++ (if c = '\x27' then ['\x27', c] else [c]) ++
        singleContent indent false rest

/-- A single-quoted string. -/
def single (indent : Nat) (w : Word) : Word :=
  '\x27' :: (singleContent indent false w ++ ['\x27'])

/-- The letter that names a character in double quotes. -/
def escapeLetter? (c : Char) : Option Char :=
  (Quoted.named.filter fun e => e.2 = c && e.1 != '\t' && e.1 != ' ' && e.1 != '/').head?.map (·.1)

/-- A number in upper case hexadecimal digits, at least so many. -/
def hexDigits (least n : Nat) : Word :=
  let digits := (Nat.toDigits 16 n).map Char.toUpper
  List.replicate (least - digits.length) '0' ++ digits

/-- The escape of a character in double quotes. -/
def escape (c : Char) : Word :=
  '\\' ::
    match escapeLetter? c with
    | some letter => [letter]
    | none =>
      let n := c.toNat
      if n ≤ 0xFF then 'x' :: hexDigits 2 n
      else if n ≤ 0xFFFF then 'u' :: hexDigits 4 n
      else 'U' :: hexDigits 8 n

/-- A double-quoted string. -/
def double (w : Word) : Word :=
  '\x22' ::
    (w.flatMap (fun c =>
      if !isPrintable c || isBreak c || c = '\x22' || c = '\\' then escape c else [c]) ++ ['\x22'])

/-- A string in the style that suits it; the lines of a block are indented. -/
def string (indent : Nat) (w : Word) : Word :=
  if w.contains '\n' then if allowsLiteral w then literal indent w else double w
  else if !isAmbiguous w && allowsPlain w then w
  else if allowsSingle w then single indent w
  else double w

end Style

namespace Node

/-- The text of a scalar in a block of some indentation. -/
def scalarText (indent : Nat) (s : Scalar) : Word :=
  if s.isString then Style.string (indent + 2) s.text else s.text

/-- Ends a line that has not ended yet. -/
def endLine (w : Word) : Word := if w.getLast?.any isBreak then w else w ++ ['\n']

/-- Whether a key can stand in front of its colon: it is short and has no line end of any kind. -/
def isSimpleKey (s : Scalar) : Bool :=
  !(normalizeBreaks s.text).any isBreak && (String.ofList s.text).utf8ByteSize ≤ 128

/-- A key and its colon. -/
def keyText (indent : Nat) : Node → Word
  | scalar s =>
    if isSimpleKey s then Style.pad indent ++ scalarText indent s ++ [':']
    else
      endLine (Style.pad indent ++ '?' :: ' ' :: scalarText indent s) ++ Style.pad indent ++ [':']
  | _ => Style.pad indent ++ ['?', ':']

mutual

/-- A node behind a colon or a dash: scalars in the same line, collections in the lines below. -/
def render (indent : Nat) : Node → Word
  | scalar s => endLine (' ' :: scalarText indent s)
  | sequence [] => " []\n".toList
  | sequence (item :: items) => '\n' :: renderItems indent (item :: items)
  | mapping [] => " {}\n".toList
  | mapping (entry :: entries) => '\n' :: renderEntries (indent + 2) (entry :: entries)

/-- The items of a sequence, each behind a dash. -/
def renderItems (indent : Nat) : List Node → Word
  | [] => []
  | item :: items => Style.pad indent ++ '-' :: render indent item ++ renderItems indent items

/-- The entries of a mapping. -/
def renderEntries (indent : Nat) : List (Node × Node) → Word
  | [] => []
  | (key, value) :: entries =>
    keyText indent key ++ render indent value ++ renderEntries indent entries

end

/-- The document of a mapping, and any other node in the line it begins. -/
def print : Node → Word
  | mapping (entry :: entries) => renderEntries 0 (entry :: entries)
  | node => (render 0 node).drop 1

end Node

end Camouflage.Yaml
