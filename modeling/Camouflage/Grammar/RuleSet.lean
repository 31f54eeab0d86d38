/-
Camouflage/Grammar/RuleSet.lean

Production rules: one replacement per symbol, in symbol order.

A rule set only grows, and never overwrites (`RuleSet.add` refuses a second
rule for a symbol).  Its written form lists the rules in symbol order and
escapes nothing, so not every rule set can be read back from it.
-/
import Camouflage.Fault
import Camouflage.Table

namespace Camouflage

/-- Replacements by symbol. -/
abbrev RuleSet := Table Char Word

/-- Replacements by key text, as a config file gives them. -/
abbrev RuleTable := Table Word Word

namespace RuleSet

/-- Adds a rule; a second rule for the same symbol is refused. -/
def add (rules : RuleSet) (symbol : Char) (replacement : Word) : Outcome RuleSet :=
  if rules.contains symbol then .error (.grammar (.duplicateRule symbol))
  else .ok (rules.insert symbol replacement)

/-- The key of a rule as the one symbol it must be. -/
def symbolOfKey (key : Word) : Outcome Char :=
  match key with
  | [c] => .ok c
  | _ => .error (.grammar (.keyNotSymbol key))

/-- Adds rules given by key text, in the order of the list. -/
def addAll (rules : RuleSet) : List (Word × Word) → Outcome RuleSet
  | [] => .ok rules
  | (key, replacement) :: rest => do
    let symbol ← symbolOfKey key
    let rules ← rules.add symbol replacement
    addAll rules rest

/-- The rule set of a table of texts, whose keys must each be one symbol. -/
def ofTable (table : RuleTable) : Outcome RuleSet := addAll .empty table.entries

/-- What a symbol turns into: its replacement, or itself where no rule names it. -/
def image (rules : RuleSet) (symbol : Char) : Word := (rules.get? symbol).getD [symbol]

/-! ### Written form -/

/-- One rule in arrow notation. -/
def entryWord (rule : Char × Word) : Word := rule.1 :: ' ' :: '-' :: '>' :: ' ' :: rule.2

/-- The rules in arrow notation, in symbol order. -/
def toWord (rules : RuleSet) : Word :=
  List.intercalate [';', ' '] (rules.entries.map entryWord)

/-- The rules in arrow notation, as one line of text. -/
def text (rules : RuleSet) : String := String.ofList rules.toWord

end RuleSet

end Camouflage
