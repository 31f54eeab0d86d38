/-
Camouflage/Fault.lean

Everything that can go wrong, as causes.  A fault says what happened; its
wording is given once, in `Fault.message`.  There are three families:

* `GrammarFault`: the rule notation or the branch symbols of an expansion,
* `ConfigFault`: values outside their domain, and config files,
* `ExportFault`: what was met while a finished pattern was written.
-/
import Camouflage.Palette.Color

namespace Camouflage

/-- How the file system refuses a request. -/
inductive FileFault
  /-- no entry of that name -/
  | missing
  /-- an entry of that name is in the way -/
  | alreadyExists
  /-- a path goes through a file -/
  | notDirectory
  /-- a directory where a file is needed -/
  | isDirectory
  /-- a name, or the whole path, of more bytes than there may be -/
  | nameTooLong
  /-- a path with a zero character in it, which would end it early -/
  | nameWithNul
  /-- the content is not UTF-8 -/
  | notText
  /-- any other refusal, in the system's own words -/
  | other (reason : String)
deriving DecidableEq

namespace FileFault

/-- The wording of a refusal. -/
def message : FileFault → String
  | missing => "No such file or directory (os error 2)"
  | alreadyExists => "File exists (os error 17)"
  | notDirectory => "Not a directory (os error 20)"
  | isDirectory => "Is a directory (os error 21)"
  | nameTooLong => "File name too long (os error 36)"
  | nameWithNul => "file name contained an unexpected NUL byte"
  | notText => "stream did not contain valid UTF-8"
  | other reason => reason

end FileFault

/-- What a reader met where it wanted something else. -/
abbrev Found := Option Char

/-- The wording for a character met, or for the end of the text. -/
def Found.describe : Found → String
  | some c => "'" ++ c.toString ++ "'"
  | none => "end of input"

/-- Faults of the rule notation and of branch symbols. -/
inductive GrammarFault
  /-- a second rule for a symbol -/
  | duplicateRule (symbol : Char)
  /-- a rule key that is not one symbol -/
  | keyNotSymbol (key : Word)
  /-- an entry of the arrow notation, counted from one, with no separator -/
  | missingSeparator (number : Nat) (entry : Word)
  /-- another character, or the end, where a certain mark belongs -/
  | expectedMark (wanted : Char) (found : Found) (position : Nat)
  /-- another character, or the end, where a quoted string belongs -/
  | expectedQuoted (found : Found) (position : Nat)
  /-- another character, or the end, after an entry of a mapping -/
  | expectedSeparator (found : Found) (position : Nat)
  /-- a quoted string that does not end -/
  | unterminated (position : Nat)
  /-- text behind the closing brace of a mapping -/
  | trailing (found : Char) (position : Nat)
  /-- a branch-close that no branch-open matches -/
  | unmatchedClose (index : Nat)
  /-- branch-opens that no branch-close matches -/
  | unclosedOpens (count : Nat)
  /-- a branch-close met with no saved state -/
  | emptyBranchStack
deriving DecidableEq

namespace GrammarFault

private def at_ (what : String) (position : Nat) : String :=
  what ++ " at position " ++ toString position

/-- The wording of a fault. -/
def message : GrammarFault → String
  | duplicateRule symbol => "duplicate rule for symbol '" ++ symbol.toString ++ "'"
  | keyNotSymbol key => "rule key '" ++ String.ofList key ++ "' must be exactly one symbol"
  | missingSeparator number entry =>
    "rule " ++ toString number ++ " ('" ++ String.ofList entry ++ "') is missing '->' or '='"
  | expectedMark wanted found position =>
    at_ ("expected '" ++ wanted.toString ++ "', found " ++ found.describe) position
  | expectedQuoted found position =>
    at_ ("expected quoted string, found " ++ found.describe) position
  | expectedSeparator found position =>
    at_ ("expected ',' or '\x7d', found " ++ found.describe) position
  | unterminated position => at_ "unterminated string" position
  | trailing found position =>
    at_ ("unexpected '" ++ found.toString ++ "' after closing brace") position
  | unmatchedClose index =>
    "branch-close at symbol " ++ toString index ++ " has no matching branch-open"
  | unclosedOpens count => toString count ++ " branch-open(s) never closed"
  | emptyBranchStack => "branch-close with an empty branch stack"

end GrammarFault

/-- Faults of a configuration; numbers appear as they are written in messages. -/
inductive ConfigFault
  /-- a text that is no color -/
  | color (cause : ColorFault)
  /-- fewer than two colors to choose from -/
  | paletteTooSmall (size : Nat)
  /-- a color listed twice -/
  | paletteRepeats (color : Color)
  /-- no foreground color, or more of them than the palette can supply -/
  | colorCount (most given : Nat)
  /-- the same, met when the colors are drawn -/
  | selectionCount (most size given : Nat)
  /-- a canvas side of zero or beyond the largest -/
  | canvasSize (width height largest : Nat)
  /-- an empty pen width range, or one outside the pen widths there are -/
  | thickness (least greatest largest : Nat)
  /-- a parameter that is not finite or too large -/
  | parameter (name bound value : String)
  /-- a deviation below zero -/
  | negativeDeviation (value : String)
  /-- a symbol limit of zero -/
  | noSymbols
  /-- an expansion longer than the symbol limit -/
  | tooManySymbols (depth predicted limit : Nat)
  /-- no color to paint a tree with -/
  | noForeground
  /-- a draw from an empty range -/
  | emptyRange
  /-- a config file that cannot be read -/
  | unreadable (path : String) (cause : FileFault)
  /-- a document that does not describe a configuration -/
  | document (reason : String)
deriving DecidableEq

namespace ConfigFault

/-- The wording of a fault. -/
def message : ConfigFault → String
  | color cause => cause.message
  | paletteTooSmall size => "palette needs at least 2 colors, has " ++ toString size
  | paletteRepeats c => "palette lists " ++ c.text ++ " more than once"
  | colorCount most given =>
    "num_colors must be between 1 and " ++ toString most ++ ", got " ++ toString given
  | selectionCount most size given =>
    "num_colors must be between 1 and " ++ toString most ++ " for a " ++ toString size ++
      "-color palette, got " ++ toString given
  | canvasSize width height largest =>
    "canvas must be between 1x1 and " ++ toString largest ++ "x" ++ toString largest ++
      ", got " ++ toString width ++ "x" ++ toString height
  | thickness least greatest largest =>
    "line_thickness range " ++ toString least ++ "..=" ++ toString greatest ++
      " is invalid (pen widths run 1..=" ++ toString largest ++ ")"
  | parameter name bound value =>
    name ++ " must be finite and within ±" ++ bound ++ ", got " ++ value
  | negativeDeviation value => "random_deviation must not be negative, got " ++ value
  | noSymbols => "max_symbols must be positive"
  | tooManySymbols depth predicted limit =>
    "depth " ++ toString depth ++ " expands to " ++ toString predicted ++
      " symbols, above max_symbols " ++ toString limit
  | noForeground => "no foreground colors selected"
  | emptyRange => "cannot draw from an empty range"
  | unreadable path cause => "cannot read " ++ path ++ ": " ++ cause.message
  | document reason => reason

end ConfigFault

/-- Faults of an export. -/
inductive ExportFault
  /-- the file system refused -/
  | refused (cause : FileFault)
  /-- a picture without columns -/
  | zeroWidth
  /-- a picture without rows -/
  | zeroHeight
  /-- a picture of a size on which a line cannot be stroked -/
  | noStroke
deriving DecidableEq

/-- The wording of a fault. -/
def ExportFault.message : ExportFault → String
  | refused cause => cause.message
  | zeroWidth => "Zero width not allowed"
  | zeroHeight => "Zero height not allowed"
  | noStroke => "cannot stroke a line on a picture of this size"

/-- What can go wrong. -/
inductive Fault
  /-- in the grammar -/
  | grammar (cause : GrammarFault)
  /-- in the configuration -/
  | config (cause : ConfigFault)
  /-- while a finished pattern is written to a path -/
  | exporting (path : String) (cause : ExportFault)
deriving DecidableEq

namespace Fault

/-- The wording of a fault, its family first. -/
def message : Fault → String
  | grammar cause => "Malformed grammar: " ++ cause.message
  | config cause => "Invalid configuration: " ++ cause.message
  | exporting path cause => "Export failed: " ++ path ++ ": " ++ cause.message

end Fault

/-- A result, or what went wrong. -/
abbrev Outcome (α : Type) := Except Fault α

end Camouflage
