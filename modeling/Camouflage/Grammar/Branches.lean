/-
Camouflage/Grammar/Branches.lean

The bracket check.  One counter of open branches runs over the symbols; it may
not fall below zero, and it must end at zero.  The first close that would take
it below zero is reported by its index, and only a text without one can be
reported for what stays open.
-/
import Camouflage.Fault
import Camouflage.Turtle.Command

namespace Camouflage

/-- The check from a symbol's index on, with `opened` branches open. -/
def checkBranchesFrom (index opened : Nat) : Word → Outcome Unit
  | [] => if opened = 0 then .ok () else .error (.grammar (.unclosedOpens opened))
  | symbol :: rest =>
    match Command.ofSymbol? symbol with
    | some .branchOpen => checkBranchesFrom (index + 1) (opened + 1) rest
    | some .branchClose =>
      match opened with
      | 0 => .error (.grammar (.unmatchedClose index))
      | n + 1 => checkBranchesFrom (index + 1) n rest
    | _ => checkBranchesFrom (index + 1) opened rest

/-- Whether every branch-close has its branch-open and nothing stays open. -/
def checkBranches (symbols : Word) : Outcome Unit := checkBranchesFrom 0 0 symbols

end Camouflage
