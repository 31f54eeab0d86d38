/-
Camouflage/Grammar/Expansion.lean

Expansion.  One generation replaces every symbol by its image, so it is the
morphism of words that the rule set induces; `expand` iterates it.

`expandedLength` predicts the length of an expansion without building it.  It
keeps a census, the number of copies of each symbol, and takes that from
generation to generation.  Counts stop at `countLimit`: a count that has reached
it only says "at least so many", which is exact again as soon as the symbol
vanishes.
-/
import Camouflage.Grammar.RuleSet

namespace Camouflage

/-! ### Words -/

/-- The next generation of a word. -/
def RuleSet.generation (rules : RuleSet) (word : Word) : Word := word.flatMap rules.image

/-- The word some generations later. -/
def RuleSet.generations (rules : RuleSet) : Nat → Word → Word
  | 0, word => word
  | n + 1, word => generations rules n (rules.generation word)

/-- The word that `depth` generations make of `start`; without rules nothing changes. -/
def expand (start : Word) (rules : RuleSet) (depth : Nat) : Word :=
  if rules.isEmpty then start else rules.generations depth start

/-! ### Counts -/

/-- The largest count kept, `2 ^ 128 - 1`. -/
def countLimit : Nat := 0xFFFFFFFFFFFFFFFFFFFFFFFFFFFFFFFF

/-- The sum of two counts, stopped at the limit. -/
def addCounts (m n : Nat) : Nat := min (m + n) countLimit

/-- The number of copies of each symbol of a word. -/
abbrev Census := Table Char Nat

namespace Census

/-- Counts `n` more copies of a symbol. -/
def record (n : Nat) (census : Census) (symbol : Char) : Census :=
  census.insert symbol (addCounts ((census.get? symbol).getD 0) n)

/-- The census of a word. -/
def ofWord (word : Word) : Census := word.foldl (record 1) .empty

/-- The census of the next generation: every copy counts for its whole image. -/
def generation (rules : RuleSet) (census : Census) : Census :=
  census.entries.foldl (fun next e => (rules.image e.1).foldl (record e.2) next) .empty

/-- The census some generations later; an empty word stays empty. -/
def generations (rules : RuleSet) : Nat → Census → Census
  | 0, census => census
  | n + 1, census =>
    let next := generation rules census
    if next.isEmpty then next else generations rules n next

/-- The number of symbols in all. -/
def total (census : Census) : Nat := census.entries.foldl (fun n e => addCounts n e.2) 0

end Census

/-- The length of an expansion, stopped at `countLimit`. -/
def expandedLength (start : Word) (rules : RuleSet) (depth : Nat) : Nat :=
  (Census.generations rules depth (Census.ofWord start)).total

end Camouflage
