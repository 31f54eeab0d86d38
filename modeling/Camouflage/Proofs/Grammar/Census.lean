/-
Camouflage/Proofs/Grammar/Census.lean

The census tells the length of an expansion.  Main statement:

    expandedLength start rules depth = min (expand start rules depth).length (2 ^ 128 - 1)

A census *shows* the numbers of copies in a word: under every symbol it has the
true number, stopped at the limit.  One generation keeps this true (`Shows.next`),
and the reason is that stopping is compatible with what the census computes: a
sum of products comes out the same, up to the limit, whether the numbers were
stopped before or only at the end (`stopped_sum_congr`, `stopped_mul_left`).

So nothing is lost when a count has stopped early.  A symbol that vanishes later
is multiplied by zero, and then its stopped count no longer matters.
-/
import Mathlib.Algebra.BigOperators.Group.Finset.Basic
import Mathlib.Algebra.GroupWithZero.Nat
import Camouflage.Proofs.Grammar.Generations
import Camouflage.Proofs.Tables

namespace Camouflage

/-! ### Numbers stopped at the limit -/

/-- A number as a counter has it: stopped at the limit. -/
def stopped (n : Nat) : Nat := min n countLimit

theorem addCounts_eq (m n : Nat) : addCounts m n = stopped (m + n) := rfl

@[simp] theorem stopped_zero : stopped 0 = 0 := Nat.zero_min _

theorem stopped_eq_zero_iff {n : Nat} : stopped n = 0 ↔ n = 0 := by
  simp only [stopped, countLimit]
  omega

theorem stopped_add_congr {a a' b b' : Nat} (ha : stopped a = stopped a')
    (hb : stopped b = stopped b') : stopped (a + b) = stopped (a' + b') := by
  simp only [stopped, countLimit] at *
  omega

/-- Stopping twice is stopping once. -/
theorem stopped_stopped (n : Nat) : stopped (stopped n) = stopped n :=
  min_eq_left (Nat.min_le_right _ _)

theorem stopped_add_left (m n : Nat) : stopped (stopped m + n) = stopped (m + n) :=
  stopped_add_congr (stopped_stopped m) rfl

/-- Many copies of a word count the same whether or not their number was stopped: with a symbol in
the word both are past the limit, and without one both are zero. -/
theorem stopped_mul_left (m n : Nat) : stopped (stopped m * n) = stopped (m * n) := by
  rcases Nat.le_total m countLimit with h | h
  · rw [show stopped m = m from min_eq_left h]
  · rw [show stopped m = countLimit from min_eq_right h]
    cases n with
    | zero => rfl
    | succ n =>
      have hlimit : countLimit ≤ countLimit * (n + 1) := Nat.le_mul_of_pos_right _ n.succ_pos
      have hm : countLimit ≤ m * (n + 1) := h.trans (Nat.le_mul_of_pos_right _ n.succ_pos)
      rw [stopped, stopped, min_eq_right hlimit, min_eq_right hm]

theorem stopped_sum_congr {α : Type} {l : List α} {f g : α → Nat}
    (h : ∀ x ∈ l, stopped (f x) = stopped (g x)) :
    stopped (l.map f).sum = stopped (l.map g).sum := by
  induction l with
  | nil => rfl
  | cons x l ih =>
    rw [List.map_cons, List.map_cons, List.sum_cons, List.sum_cons]
    exact stopped_add_congr (h x List.mem_cons_self)
      (ih fun y hy => h y (List.mem_cons_of_mem _ hy))

/-- A sum over the symbols of a word, taken symbol by symbol over any list that has them all. -/
theorem sum_count_mul {keys : List Char} (nodup : keys.Nodup) {word : Word}
    (hall : ∀ c ∈ word, c ∈ keys) (g : Char → Nat) :
    (keys.map fun k => word.count k * g k).sum = (word.map g).sum := by
  have hsub : word.toFinset ⊆ keys.toFinset := by
    intro c hc
    exact List.mem_toFinset.2 (hall c (List.mem_toFinset.1 hc))
  rw [← List.sum_toFinset _ nodup, Finset.sum_list_map_count]
  refine (Finset.sum_subset hsub ?_).symm
  intro c _ hc
  rw [List.count_eq_zero_of_not_mem fun hmem => hc (List.mem_toFinset.2 hmem), Nat.zero_mul]

namespace Census

/-! ### What a census shows -/

/-- What a census has under a symbol. -/
def count (census : Census) (symbol : Char) : Nat := (census.get? symbol).getD 0

/-- The census shows these numbers of copies, each stopped at the limit. -/
def Shows (census : Census) (copies : Char → Nat) : Prop :=
  ∀ c, census.count c = stopped (copies c)

theorem shows_empty : Shows Table.empty fun _ => 0 := fun _ => rfl

/-- Only what the numbers are up to the limit matters. -/
theorem Shows.congr {census : Census} {copies copies' : Char → Nat} (h : census.Shows copies)
    (same : ∀ c, stopped (copies c) = stopped (copies' c)) : census.Shows copies' := by
  intro c
  rw [h c, same c]

theorem Shows.record {census : Census} {copies : Char → Nat} (h : census.Shows copies)
    (n : Nat) (symbol : Char) :
    (record n census symbol).Shows fun c => copies c + n * [symbol].count c := by
  intro c
  show ((Table.insert census symbol (addCounts (census.count symbol) n)).get? c).getD 0
    = stopped (copies c + n * [symbol].count c)
  rw [Table.get?_insert]
  by_cases hc : c = symbol
  · subst hc
    rw [if_pos rfl, Option.getD_some, h c, addCounts_eq, stopped_add_left,
      List.count_singleton_self, Nat.mul_one]
  · have hnot : c ∉ [symbol] := fun hmem => hc (List.mem_singleton.1 hmem)
    rw [if_neg hc, List.count_eq_zero_of_not_mem hnot, Nat.mul_zero, Nat.add_zero]
    exact h c

theorem Shows.foldl_record {census : Census} {copies : Char → Nat} (h : census.Shows copies)
    (n : Nat) (word : Word) :
    (word.foldl (Census.record n) census).Shows fun c => copies c + n * word.count c := by
  induction word generalizing census copies with
  | nil => exact h
  | cons symbol word ih =>
    refine (ih (h.record n symbol)).congr fun c => ?_
    rw [← List.singleton_append (l := word), List.count_append, Nat.mul_add, Nat.add_assoc]

/-- A word's census shows how often each symbol is in it. -/
theorem shows_ofWord (word : Word) : (ofWord word).Shows fun c => word.count c := by
  refine (shows_empty.foldl_record 1 word).congr fun c => ?_
  rw [Nat.zero_add, Nat.one_mul]

/-! ### Sums over a census -/

/-- A sum over the entries of a word's census is, up to the limit, the sum over the word. -/
theorem Shows.sum_entries {census : Census} {word : Word}
    (h : census.Shows fun c => word.count c) (g : Char → Nat) :
    stopped (census.entries.map fun e => e.2 * g e.1).sum = stopped (word.map g).sum := by
  have hentry : ∀ e ∈ census.entries, stopped (e.2 * g e.1) = stopped (word.count e.1 * g e.1) := by
    intro e he
    have hvalue : census.count e.1 = e.2 := by
      rw [count, Table.get?_eq_some_iff.2 he, Option.getD_some]
    rw [← hvalue, h e.1, stopped_mul_left]
  have hall : ∀ c ∈ word, c ∈ census.entries.map Prod.fst := by
    intro c hc
    by_contra hnot
    -- a symbol that the census does not list occurs nowhere
    have hzero : census.count c = 0 := by rw [count, Table.get?_eq_none_iff.2 hnot]; rfl
    rw [h c, stopped_eq_zero_iff, List.count_eq_zero] at hzero
    exact hzero hc
  rw [stopped_sum_congr hentry, ← sum_count_mul census.nodup_keys hall g, List.map_map]
  rfl

theorem foldl_addCounts (entries : List (Char × Nat)) (n : Nat) :
    entries.foldl (fun n e => addCounts n e.2) (stopped n)
      = stopped (n + (entries.map Prod.snd).sum) := by
  induction entries generalizing n with
  | nil => rfl
  | cons e entries ih =>
    rw [List.foldl_cons, addCounts_eq, stopped_add_left, ih, List.map_cons, List.sum_cons,
      Nat.add_assoc]

/-- The total of a word's census is the length of the word. -/
theorem Shows.total {census : Census} {word : Word} (h : census.Shows fun c => word.count c) :
    census.total = stopped word.length := by
  have hones : (word.map fun _ => 1).sum = word.length := by simp
  have hsum := h.sum_entries fun _ => 1
  simp only [Nat.mul_one] at hsum
  rw [← hones, ← hsum, Census.total, ← stopped_zero, foldl_addCounts, Nat.zero_add]

/-! ### Generations -/

theorem Shows.foldl_images (rules : RuleSet) {census : Census} {copies : Char → Nat}
    (h : census.Shows copies) (entries : List (Char × Nat)) :
    (entries.foldl (fun next e => (rules.image e.1).foldl (Census.record e.2) next) census).Shows
      fun c => copies c + (entries.map fun e => e.2 * (rules.image e.1).count c).sum := by
  induction entries generalizing census copies with
  | nil => exact h
  | cons e entries ih =>
    refine (ih (h.foldl_record e.2 (rules.image e.1))).congr fun c => ?_
    rw [List.map_cons, List.sum_cons, Nat.add_assoc]

/-- **One generation.**  From a word's census comes the census of the next generation: the copies of
a symbol are those in the images of all symbols of the word. -/
theorem Shows.next (rules : RuleSet) {census : Census} {word : Word}
    (h : census.Shows fun c => word.count c) :
    (generation rules census).Shows fun c => (rules.generation word).count c := by
  refine (shows_empty.foldl_images rules census.entries).congr fun c => ?_
  rw [Nat.zero_add, h.sum_entries fun k => (rules.image k).count c, RuleSet.generation,
    List.count_flatMap]
  rfl

/-- A word with an empty census is empty. -/
theorem Shows.eq_nil {census : Census} {word : Word} (h : census.Shows fun c => word.count c)
    (hempty : census.isEmpty) : word = [] := by
  have htotal : census.total = 0 := by
    rw [Census.total, List.isEmpty_iff.1 hempty]
    rfl
  rw [h.total, stopped_eq_zero_iff] at htotal
  exact List.length_eq_zero_iff.1 htotal

/-- Going through generations, early end included: an empty word has no further generations that
differ from it. -/
theorem Shows.generations (rules : RuleSet) (n : Nat) {census : Census} {word : Word}
    (h : census.Shows fun c => word.count c) :
    (Census.generations rules n census).Shows fun c => (rules.generations n word).count c := by
  induction n generalizing census word with
  | zero => exact h
  | succ n ih =>
    have hnext := h.next rules
    rw [Census.generations, RuleSet.generations_succ]
    split
    · -- nothing is left, and of nothing nothing becomes
      rename_i hempty
      rw [hnext.eq_nil hempty, RuleSet.generations_nil]
      exact hnext.eq_nil hempty ▸ hnext
    · exact ih hnext

/-- What the census counts some generations later is the length of the word there. -/
theorem total_generations (rules : RuleSet) (n : Nat) (word : Word) :
    (Census.generations rules n (Census.ofWord word)).total
      = stopped (rules.generations n word).length :=
  ((shows_ofWord word).generations rules n).total

end Census

/-! ### The predicted length -/

theorem expandedLength_eq_stopped (start : Word) (rules : RuleSet) (depth : Nat) :
    expandedLength start rules depth = stopped (expand start rules depth).length := by
  rw [expandedLength, Census.total_generations, expand_eq_generations]

/-- **The prediction is exact up to the limit.**  For every start, every rule set and every depth the
census gives the length of the expansion, or the limit if the expansion is longer. -/
theorem expandedLength_eq_min_length (start : Word) (rules : RuleSet) (depth : Nat) :
    expandedLength start rules depth
      = min (expand start rules depth).length (2 ^ 128 - 1) := by
  rw [expandedLength, ((Census.shows_ofWord start).generations rules depth).total,
    expand_eq_generations]
  rfl

end Camouflage
