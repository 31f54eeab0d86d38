/-
Camouflage/Turtle/Command.lean

The vocabulary of the turtle: five symbols that move it, one for each command
(`Command.ofSymbol?_eq_some_iff`); every other symbol has no effect.
-/
namespace Camouflage

/-- What the turtle can be told. -/
inductive Command
  /-- go forward, drawing -/
  | forward
  /-- turn clockwise -/
  | turnRight
  /-- turn counterclockwise -/
  | turnLeft
  /-- save position and heading -/
  | branchOpen
  /-- go back to the position and heading saved last -/
  | branchClose
deriving DecidableEq

/-- The command a symbol stands for. -/
def Command.ofSymbol? (symbol : Char) : Option Command :=
  if symbol = 'F' then some forward
  else if symbol = '+' then some turnRight
  else if symbol = '-' then some turnLeft
  else if symbol = '[' then some branchOpen
  else if symbol = ']' then some branchClose
  else none

/-- The symbol that stands for a command. -/
def Command.symbol : Command → Char
  | forward => 'F'
  | turnRight => '+'
  | turnLeft => '-'
  | branchOpen => '['
  | branchClose => ']'

/-- Every command has one symbol. -/
theorem Command.ofSymbol?_eq_some_iff {symbol : Char} {command : Command} :
    ofSymbol? symbol = some command ↔ symbol = command.symbol := by
  constructor
  · intro h
    unfold ofSymbol? at h
    repeat' split at h
    all_goals cases h
    all_goals assumption
  · rintro rfl
    cases command <;> rfl

/-- A symbol that is no command is the symbol of none. -/
theorem Command.ne_symbol_of_none {symbol : Char} (h : ofSymbol? symbol = none)
    (command : Command) : symbol ≠ command.symbol := by
  intro heq
  rw [ofSymbol?_eq_some_iff.2 heq] at h
  cases h

end Camouflage
