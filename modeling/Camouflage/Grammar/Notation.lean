/-
Camouflage/Grammar/Notation.lean

The two notations of a rule set, and where rules come from.  A text whose first
character that is not blank is an opening brace is in mapping notation, any
other is in arrow notation, and a blank text is the empty rule set.
-/
import Camouflage.Grammar.Arrow
import Camouflage.Grammar.Mapping

namespace Camouflage

/-- Reads a rule set in either notation. -/
def RuleSet.parse (text : Word) : Outcome RuleSet :=
  match Text.trim text with
  | [] => .ok .empty
  | '{' :: rest => Mapping.parse ('{' :: rest)
  | body => Arrow.parse body

/-- Rules as a configuration gives them: a table of texts, or a text in some notation. -/
inductive RuleSource
  | table (rules : RuleTable)
  | text (rules : Word)
deriving DecidableEq

/-- The rule set that a source stands for. -/
def RuleSource.load : RuleSource → Outcome RuleSet
  | table rules => RuleSet.ofTable rules
  | text rules => RuleSet.parse rules

end Camouflage
