/-
Camouflage/Proofs/Grammar/Morphism.lean

Expanding is an iterated morphism of words.  What becomes of two words one behind
the other is what becomes of each (`expand_append`), and going deeper is expanding
again what has been expanded (`expand_expand`).  Neither minds symbols that vanish,
rules for brackets, or the shortcut that is taken without rules.

The predicted length follows its word.  Of two words one behind the other it is the
sum of both predictions, stopped at the limit once more (`expandedLength_append`):
a prediction that was stopped before stands for a word so long that the sum is
stopped as well.
-/
import Camouflage.Proofs.Grammar.Census

namespace Camouflage

variable (rules : RuleSet)

/-! ### Words -/

theorem expand_append (u v : Word) (depth : Nat) :
    expand (u ++ v) rules depth = expand u rules depth ++ expand v rules depth := by
  rw [expand_eq_generations, expand_eq_generations, expand_eq_generations,
    RuleSet.generations_append]

theorem expand_expand (word : Word) (m n : Nat) :
    expand (expand word rules m) rules n = expand word rules (m + n) := by
  rw [expand_eq_generations, expand_eq_generations, expand_eq_generations,
    RuleSet.generations_add]

/-! ### Lengths -/

theorem expandedLength_append (u v : Word) (depth : Nat) :
    expandedLength (u ++ v) rules depth
      = addCounts (expandedLength u rules depth) (expandedLength v rules depth) := by
  rw [addCounts_eq, expandedLength_eq_stopped, expandedLength_eq_stopped,
    expandedLength_eq_stopped, expand_append, List.length_append]
  -- stopping both parts first does not change where the sum stops
  exact (stopped_add_congr (stopped_stopped _) (stopped_stopped _)).symm

/-! ### The morphism -/

/-- **Expanding is an iterated morphism.**  It goes through words part by part, and through depths
one after the other; the predicted length of two words is the sum of their predicted lengths, up to
the limit.  The shortcut without rules is no exception to any of this: with it or without it, an
expansion is what the generations make of its word. -/
theorem expand_iterated_morphism (u v : Word) (m n : Nat) :
    expand (u ++ v) rules m = expand u rules m ++ expand v rules m ∧
    expand (expand u rules m) rules n = expand u rules (m + n) ∧
    expandedLength (u ++ v) rules m
      = min (expandedLength u rules m + expandedLength v rules m) (2 ^ 128 - 1) ∧
    expand u rules m = rules.generations m u :=
  ⟨expand_append rules u v m, expand_expand rules u m n, expandedLength_append rules u v m,
    expand_eq_generations rules u m⟩

end Camouflage
