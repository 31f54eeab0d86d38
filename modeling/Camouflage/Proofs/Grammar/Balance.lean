/-
Camouflage/Proofs/Grammar/Balance.lean

Balanced grammars.  If no rule is for a bracket and the brackets of every
replacement match (`RuleSet.Balanced`), the check need not look at expansions: it
finds in every generation what it finds in the word that is expanded
(`checkBranches_expand`).

To the counter of the check, a word whose brackets match is nothing at all: the
counter is behind it where it was before it, however many branches are open
(`checkBranchesFrom_append_of_ok`).  So each symbol may be replaced by its image
wherever it stands.  An image is either the bracket that it replaces or such a
word, and a symbol that is no bracket leaves the counter alone as well.
-/
import Camouflage.Proofs.Grammar.Brackets
import Camouflage.Proofs.Grammar.Generations
import Camouflage.Proofs.Tables

namespace Camouflage

/-! ### Words the counter does not notice -/

/-- What the check lets pass with some branches open closes just these, and leaves alone any others
that are open below them. -/
theorem checkBranchesFrom_append {index opened : Nat} {word : Word}
    (h : checkBranchesFrom index opened word = .ok ()) (index' below : Nat) (rest : Word) :
    checkBranchesFrom index' (opened + below) (word ++ rest)
      = checkBranchesFrom (index' + word.length) below rest := by
  induction word generalizing index opened index' with
  | nil =>
    rw [checkBranchesFrom_nil] at h
    split at h
    · next hnone =>
      rw [hnone, Nat.zero_add]
      rfl
    · cases h
  | cons symbol word ih =>
    have hlength : index' + (symbol :: word).length = index' + 1 + word.length := by
      rw [List.length_cons]
      omega
    rw [hlength, List.cons_append]
    by_cases hopen : symbol = '['
    · subst hopen
      rw [checkBranchesFrom_open] at h ⊢
      rw [Nat.add_right_comm]
      exact ih h (index' + 1)
    by_cases hclose : symbol = ']'
    · subst hclose
      cases opened with
      | zero => cases h
      | succ opened =>
        rw [checkBranchesFrom_close_succ] at h
        rw [Nat.succ_add, checkBranchesFrom_close_succ]
        exact ih h (index' + 1)
    · rw [checkBranchesFrom_other hopen hclose] at h ⊢
      exact ih h (index' + 1)

/-- A word whose brackets match leaves the counter where it was. -/
theorem checkBranchesFrom_append_of_ok {word : Word} (h : checkBranches word = .ok ())
    (index opened : Nat) (rest : Word) :
    checkBranchesFrom index opened (word ++ rest)
      = checkBranchesFrom (index + word.length) opened rest := by
  have happend := checkBranchesFrom_append h index opened rest
  rwa [Nat.zero_add] at happend

/-! ### Balanced rules -/

namespace RuleSet

/-- No rule is for a bracket, and no replacement has a bracket without its partner. -/
structure Balanced (rules : RuleSet) : Prop where
  keeps_open : rules.get? '[' = none
  keeps_close : rules.get? ']' = none
  replacement : ∀ symbol word, rules.get? symbol = some word → checkBranches word = .ok ()

variable {rules : RuleSet}

theorem image_of_none {symbol : Char} (h : rules.get? symbol = none) :
    rules.image symbol = [symbol] := by
  rw [image, h]
  rfl

/-- What a symbol other than a bracket turns into has matching brackets, with or without a rule. -/
theorem Balanced.checkBranches_image (hrules : rules.Balanced) {symbol : Char}
    (hopen : symbol ≠ '[') (hclose : symbol ≠ ']') :
    checkBranches (rules.image symbol) = .ok () := by
  cases hrule : rules.get? symbol with
  | none =>
    rw [image_of_none hrule, checkBranches, checkBranchesFrom_other hopen hclose]
    rfl
  | some word =>
    rw [image, hrule]
    exact hrules.replacement symbol word hrule

/-- **One generation.**  With any number of branches open, the next generation of a word passes
exactly if the word does. -/
theorem Balanced.checkBranchesFrom_generation (hrules : rules.Balanced)
    (index index' opened : Nat) (word : Word) :
    checkBranchesFrom index' opened (rules.generation word) = .ok () ↔
      checkBranchesFrom index opened word = .ok () := by
  induction word generalizing index index' opened with
  | nil => rfl
  | cons symbol word ih =>
    rw [generation_cons]
    by_cases hopen : symbol = '['
    · subst hopen
      rw [image_of_none hrules.keeps_open]
      exact ih (index + 1) (index' + 1) (opened + 1)
    by_cases hclose : symbol = ']'
    · subst hclose
      rw [image_of_none hrules.keeps_close]
      cases opened with
      | zero =>
        -- both stop at this close, each with an index of its own
        refine iff_of_false (fun h => ?_) (fun h => ?_)
        · cases h
        · cases h
      | succ opened => exact ih (index + 1) (index' + 1) opened
    · rw [checkBranchesFrom_append_of_ok (hrules.checkBranches_image hopen hclose),
        checkBranchesFrom_other hopen hclose]
      exact ih (index + 1) (index' + (rules.image symbol).length) opened

/-- **Any number of generations.** -/
theorem Balanced.checkBranches_generations (hrules : rules.Balanced) (n : Nat) (word : Word) :
    checkBranches (rules.generations n word) = .ok () ↔ checkBranches word = .ok () := by
  induction n generalizing word with
  | zero => rfl
  | succ n ih =>
    rw [generations_succ, ih]
    exact hrules.checkBranchesFrom_generation 0 0 0 word

end RuleSet

/-! ### Expansions -/

/-- **Balanced grammars stay balanced.**  With balanced rules the brackets of a word match exactly
if those of its expansion do, at every depth; so what is made of a word with matching brackets
always has matching brackets. -/
theorem checkBranches_expand {rules : RuleSet} (hrules : rules.Balanced) (start : Word)
    (depth : Nat) :
    checkBranches (expand start rules depth) = .ok () ↔ checkBranches start = .ok () := by
  rw [expand_eq_generations]
  exact hrules.checkBranches_generations depth start

/-- Rules that branch inside a branch, that drop a symbol, and that leave `G` alone. -/
def thicket : RuleSet := Table.ofList [('F', "F[+F[-G]X]".toList), ('X', [])]

/-- The expansions of a word in which an image stands inside a branch. -/
theorem checkBranches_expand_thicket :
    thicket.Balanced ∧ checkBranches "[F]-F".toList = .ok () ∧
      checkBranches (expand "[F]-F".toList thicket 40) = .ok () := by
  have hrules : thicket.Balanced := by
    refine ⟨rfl, rfl, fun symbol word hrule => ?_⟩
    have hmem : (symbol, word) ∈ thicket.entries := Table.get?_eq_some_iff.1 hrule
    rcases List.mem_cons.1 hmem with hforward | hdropped
    · cases hforward
      rfl
    · cases List.mem_singleton.1 hdropped
      rfl
  have hstart : checkBranches "[F]-F".toList = .ok () := by rfl
  exact ⟨hrules, hstart, (checkBranches_expand hrules _ 40).2 hstart⟩

end Camouflage
