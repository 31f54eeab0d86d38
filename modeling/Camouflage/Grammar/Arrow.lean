/-
Camouflage/Grammar/Arrow.lean

Arrow notation: `F -> FF; G = F`.  Entries stand between semicolons or line
ends; each is a key, a separator and a replacement.  Either `->` or `=` may
separate, and in an entry that has both the one that begins first does
(`splitEntry`); what follows it belongs to the replacement.

Blanks around entries, keys and replacements do not count, and an entry of
blanks alone is no entry.
-/
import Camouflage.Grammar.RuleSet

namespace Camouflage.Arrow

/-- Whether a character ends an entry. -/
def isEntryEnd (c : Char) : Bool := c = ';' || c = '\n'

/-- The pieces of a text between entry ends. -/
def pieces : Word → List Word
  | [] => [[]]
  | c :: rest =>
    if isEntryEnd c then [] :: pieces rest
    else
      match pieces rest with
      | [] => [[c]]
      | piece :: others => (c :: piece) :: others

/-- The entries of a text: its trimmed pieces that are not empty. -/
def entries (text : Word) : List Word :=
  ((pieces text).map Text.trim).filter fun e => !e.isEmpty

/-- The text before and after the first separator. -/
def splitEntry : Word → Option (Word × Word)
  | [] => none
  | '-' :: '>' :: rest => some ([], rest)
  | '=' :: rest => some ([], rest)
  | c :: rest => (splitEntry rest).map fun (key, replacement) => (c :: key, replacement)

/-- Adds the rules of entries, of which the first has the given number. -/
def addEntries (rules : RuleSet) (number : Nat) : List Word → Outcome RuleSet
  | [] => .ok rules
  | entry :: rest =>
    match splitEntry entry with
    | none => .error (.grammar (.missingSeparator number entry))
    | some (key, replacement) => do
      let symbol ← RuleSet.symbolOfKey (Text.trim key)
      let rules ← rules.add symbol (Text.trim replacement)
      addEntries rules (number + 1) rest

/-- Reads arrow notation. -/
def parse (text : Word) : Outcome RuleSet := addEntries .empty 1 (entries text)

end Camouflage.Arrow
