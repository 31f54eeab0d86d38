/-
Camouflage/Proofs/Grammar/Brackets.lean

What the bracket check accepts.  The check runs a counter over a word; here it
is described by the word alone: brackets match (`BracketsMatch`) if no beginning
of the word has more closes than opens and the whole has as many of the one as
of the other (`checkBranches_eq_ok_iff`).

The counter itself is what the check goes on with behind a beginning of the word
(`OpenAfter`).
-/
import Mathlib.Data.List.Infix
import Camouflage.Grammar.Branches

namespace Camouflage

/-! ### One symbol -/

theorem checkBranchesFrom_nil (index opened : Nat) :
    checkBranchesFrom index opened [] =
      if opened = 0 then .ok () else .error (.grammar (.unclosedOpens opened)) := rfl

theorem checkBranchesFrom_open (index opened : Nat) (rest : Word) :
    checkBranchesFrom index opened ('[' :: rest) =
      checkBranchesFrom (index + 1) (opened + 1) rest := rfl

theorem checkBranchesFrom_close_succ (index opened : Nat) (rest : Word) :
    checkBranchesFrom index (opened + 1) (']' :: rest) =
      checkBranchesFrom (index + 1) opened rest := rfl

theorem checkBranchesFrom_close_zero (index : Nat) (rest : Word) :
    checkBranchesFrom index 0 (']' :: rest) = .error (.grammar (.unmatchedClose index)) := rfl

/-- A symbol that is no bracket is passed over. -/
theorem checkBranchesFrom_other {symbol : Char} (hopen : symbol ≠ '[') (hclose : symbol ≠ ']')
    (index opened : Nat) (rest : Word) :
    checkBranchesFrom index opened (symbol :: rest) =
      checkBranchesFrom (index + 1) opened rest := by
  rw [checkBranchesFrom.eq_def]
  dsimp only
  split
  · rename_i h
    exact absurd (Command.ofSymbol?_eq_some_iff.1 h) hopen
  · rename_i h
    exact absurd (Command.ofSymbol?_eq_some_iff.1 h) hclose
  · rfl

/-! ### The counter -/

/-- The counter of open branches behind `front`: whatever follows is checked with that many branches
open. -/
def OpenAfter (front : Word) (opened : Nat) : Prop :=
  ∀ rest, checkBranches (front ++ rest) = checkBranchesFrom front.length opened rest

/-! ### Words whose brackets match -/

/-- No close without an open before it, and no open without a close. -/
structure BracketsMatch (word : Word) : Prop where
  no_excess : ∀ front, front <+: word → front.count ']' ≤ front.count '['
  none_open : word.count ']' = word.count '['

/-- A beginning of a word is empty, where nothing is closed, or goes on from the first symbol. -/
theorem no_excess_cons {symbol : Char} {rest : Word} {n : Nat} :
    (∀ front, front <+: symbol :: rest → front.count ']' ≤ n + front.count '[') ↔
      ∀ front, front <+: rest →
        (symbol :: front).count ']' ≤ n + (symbol :: front).count '[' := by
  constructor
  · intro h front hprefix
    exact h _ (List.cons_prefix_cons.2 ⟨rfl, hprefix⟩)
  · intro h front hprefix
    rcases List.prefix_cons_iff.1 hprefix with rfl | ⟨front, rfl, hfront⟩
    · simp
    · exact h front hfront

/-- With some branches open already, as many more closes than opens are needed. -/
theorem checkBranchesFrom_eq_ok_iff {index opened : Nat} {word : Word} :
    checkBranchesFrom index opened word = .ok () ↔
      (∀ front, front <+: word → front.count ']' ≤ opened + front.count '[') ∧
        word.count ']' = opened + word.count '[' := by
  induction word generalizing index opened with
  | nil =>
    rw [checkBranchesFrom_nil]
    simp [eq_comm]
  | cons symbol rest ih =>
    rw [no_excess_cons]
    by_cases hopen : symbol = '['
    · subst hopen
      rw [checkBranchesFrom_open, ih]
      have hcount : ∀ w : Word, opened + 1 + w.count '[' = opened + ('[' :: w).count '[' := by
        intro w
        rw [List.count_cons_self, Nat.add_right_comm, Nat.add_assoc]
      simp [hcount]
    by_cases hclose : symbol = ']'
    · subst hclose
      cases opened with
      | zero =>
        rw [checkBranchesFrom_close_zero]
        constructor
        · intro h
          cases h
        · rintro ⟨h, -⟩
          have hnil := h [] List.nil_prefix
          simp at hnil
      | succ opened =>
        rw [checkBranchesFrom_close_succ, ih]
        simp [Nat.succ_add]
    · rw [checkBranchesFrom_other hopen hclose, ih]
      simp [hopen, hclose]

/-- The check accepts exactly the words whose brackets match. -/
theorem checkBranches_eq_ok_iff {word : Word} :
    checkBranches word = .ok () ↔ BracketsMatch word := by
  rw [checkBranches, checkBranchesFrom_eq_ok_iff]
  simp only [Nat.zero_add]
  constructor
  · rintro ⟨h, h'⟩
    exact ⟨h, h'⟩
  · rintro ⟨h, h'⟩
    exact ⟨h, h'⟩

end Camouflage
