/-
Camouflage/Proofs/Grammar/Generations.lean

Generations of words.  One generation is a morphism of words, and so is any
number of them (`generations_append`): what becomes of a word can be told from
what becomes of its parts.  Numbers of generations add up (`generations_add`).

`expand` leaves its word alone when there is no rule.  That shortcut changes
nothing (`expand_eq_generations`): without rules every symbol is its own image.
-/
import Camouflage.Grammar.Expansion

namespace Camouflage

variable (rules : RuleSet)

namespace RuleSet

/-! ### One generation -/

@[simp] theorem generation_nil : rules.generation [] = [] := rfl

theorem generation_cons (symbol : Char) (word : Word) :
    rules.generation (symbol :: word) = rules.image symbol ++ rules.generation word := rfl

@[simp] theorem generation_append (u v : Word) :
    rules.generation (u ++ v) = rules.generation u ++ rules.generation v :=
  List.flatMap_append

/-- Without rules every symbol stays. -/
theorem image_of_isEmpty {rules : RuleSet} (h : rules.isEmpty) (symbol : Char) :
    rules.image symbol = [symbol] := by
  have hentries : rules.entries = [] := List.isEmpty_iff.1 h
  rw [image, Table.get?, hentries]
  rfl

theorem generation_of_isEmpty {rules : RuleSet} (h : rules.isEmpty) (word : Word) :
    rules.generation word = word := by
  rw [generation, funext (image_of_isEmpty h), List.flatMap_singleton']

/-! ### Any number of generations -/

@[simp] theorem generations_zero (word : Word) : rules.generations 0 word = word := rfl

theorem generations_succ (n : Nat) (word : Word) :
    rules.generations (n + 1) word = rules.generations n (rules.generation word) := rfl

@[simp] theorem generations_nil (n : Nat) : rules.generations n [] = [] := by
  induction n with
  | zero => rfl
  | succ n ih => rw [generations_succ, generation_nil, ih]

@[simp] theorem generations_append (n : Nat) (u v : Word) :
    rules.generations n (u ++ v) = rules.generations n u ++ rules.generations n v := by
  induction n generalizing u v with
  | zero => rfl
  | succ n ih =>
    rw [generations_succ, generation_append, ih]
    rfl

/-- Generations add up. -/
theorem generations_add (m n : Nat) (word : Word) :
    rules.generations (m + n) word = rules.generations n (rules.generations m word) := by
  induction m generalizing word with
  | zero => rw [Nat.zero_add, generations_zero]
  | succ m ih => rw [Nat.succ_add, generations_succ, generations_succ, ih]

theorem generations_of_isEmpty {rules : RuleSet} (h : rules.isEmpty) (n : Nat) (word : Word) :
    rules.generations n word = word := by
  induction n with
  | zero => rfl
  | succ n ih => rw [generations_succ, generation_of_isEmpty h, ih]

end RuleSet

/-! ### The shortcut -/

/-- Expanding is going through generations, whether there are rules or not. -/
theorem expand_eq_generations (start : Word) (depth : Nat) :
    expand start rules depth = rules.generations depth start := by
  rw [expand]
  split
  · rename_i h
    rw [RuleSet.generations_of_isEmpty h]
  · rfl

end Camouflage
