/-
Camouflage/Proofs/Grammar/Adding.lean

Adding rules one at a time.  Every reader of rules, whatever it reads them from,
calls `RuleSet.add` on one rule after another and stops at the first refusal.
`RuleSet.Adds` says that such a run gets through, and `adds_empty_iff` what that
amounts to: no symbol has two rules, and the rule set reached is the table of
the rules added.

A reader is therefore understood once the list of rules it comes upon is known.
The order of that list does not matter, as nothing in it overwrites anything.  It
matters for what a reader refuses, which is the first thing at fault.
-/
import Camouflage.Grammar.RuleSet
import Camouflage.Proofs.Tables

namespace Camouflage

/-- A composed computation gives a result exactly if both of its parts do. -/
theorem Outcome.bind_eq_ok_iff {α β : Type} {x : Outcome α} {f : α → Outcome β} {b : β} :
    (x >>= f) = .ok b ↔ ∃ a, x = .ok a ∧ f a = .ok b := by
  cases x with
  | error fault =>
    constructor
    · intro h
      cases h
    · rintro ⟨a, ha, -⟩
      cases ha
  | ok a =>
    constructor
    · intro h
      exact ⟨a, rfl, h⟩
    · rintro ⟨a', ha, h⟩
      cases ha
      exact h

/-- A composed computation fails where its first part does, or its second part. -/
theorem Outcome.bind_eq_error_iff {α β : Type} {x : Outcome α} {f : α → Outcome β} {fault : Fault} :
    (x >>= f) = .error fault ↔ x = .error fault ∨ ∃ a, x = .ok a ∧ f a = .error fault := by
  cases x with
  | error fault' =>
    constructor
    · intro h
      cases h
      exact Or.inl rfl
    · rintro (h | ⟨a, ha, -⟩)
      · cases h
        rfl
      · cases ha
  | ok a =>
    constructor
    · intro h
      exact Or.inr ⟨a, rfl, h⟩
    · rintro (h | ⟨a', ha, h⟩)
      · cases h
      · cases ha
        exact h

namespace RuleSet

theorem symbolOfKey_eq_ok_iff {key : Word} {c : Char} : symbolOfKey key = .ok c ↔ key = [c] := by
  unfold symbolOfKey
  split
  · simp
  · rename_i hne
    constructor
    · intro h
      cases h
    · intro h
      exact absurd h (hne c)

theorem symbolOfKey_eq_error_iff {key : Word} {fault : Fault} :
    symbolOfKey key = .error fault ↔
      (∀ c, key ≠ [c]) ∧ fault = .grammar (.keyNotSymbol key) := by
  unfold symbolOfKey
  split
  · rename_i c
    constructor
    · intro h
      cases h
    · rintro ⟨hne, -⟩
      exact absurd rfl (hne c)
  · rename_i hne
    constructor
    · intro h
      cases h
      exact ⟨hne, rfl⟩
    · rintro ⟨-, rfl⟩
      rfl

theorem add_eq_ok_iff {rules rules' : RuleSet} {symbol : Char} {replacement : Word} :
    rules.add symbol replacement = .ok rules' ↔
      rules.contains symbol = false ∧ rules' = rules.insert symbol replacement := by
  unfold add
  split
  · rename_i hcontains
    simp [hcontains]
  · rename_i hcontains
    simp [hcontains, eq_comm]

theorem add_eq_error_iff {rules : RuleSet} {symbol : Char} {replacement : Word} {fault : Fault} :
    rules.add symbol replacement = .error fault ↔
      rules.contains symbol = true ∧ fault = .grammar (.duplicateRule symbol) := by
  unfold add
  split
  · rename_i hcontains
    constructor
    · intro h
      cases h
      exact ⟨hcontains, rfl⟩
    · rintro ⟨-, rfl⟩
      rfl
  · rename_i hcontains
    constructor
    · intro h
      cases h
    · rintro ⟨h, -⟩
      exact absurd h hcontains

/-- Adding the rules of `l` to `rules` one after another gets to `rules'`. -/
def Adds (rules : RuleSet) : List (Char × Word) → RuleSet → Prop
  | [], rules' => rules' = rules
  | e :: rest, rules' => ∃ middle, rules.add e.1 e.2 = .ok middle ∧ Adds middle rest rules'

theorem contains_insert_eq_false_iff {rules : RuleSet} {symbol symbol' : Char}
    {replacement : Word} : (rules.insert symbol replacement).contains symbol' = false ↔
      symbol' ≠ symbol ∧ rules.contains symbol' = false := by
  rw [Table.contains_eq_false_iff, Table.contains_eq_false_iff, Table.get?_insert]
  by_cases h : symbol' = symbol
  · simp [h]
  · simp [h]

theorem adds_iff {l : List (Char × Word)} {rules rules' : RuleSet} :
    Adds rules l rules' ↔ (l.map Prod.fst).Nodup ∧ (∀ e ∈ l, rules.contains e.1 = false) ∧
      rules' = l.foldl (fun t e => t.insert e.1 e.2) rules := by
  induction l generalizing rules with
  | nil => simp [Adds]
  | cons e rest ih =>
    rw [List.map_cons, List.nodup_cons, List.foldl_cons]
    constructor
    · rintro ⟨middle, hadd, hrest⟩
      obtain ⟨hfree, rfl⟩ := add_eq_ok_iff.1 hadd
      obtain ⟨hnodup, hall, hrules⟩ := ih.1 hrest
      -- what was added first stays, so nothing behind it has its symbol
      refine ⟨⟨?_, hnodup⟩, ?_, hrules⟩
      · intro hmem
        obtain ⟨x, hx, heq⟩ := List.mem_map.1 hmem
        exact (contains_insert_eq_false_iff.1 (hall x hx)).1 heq
      · intro x hx
        rcases List.mem_cons.1 hx with rfl | hx
        · exact hfree
        · exact (contains_insert_eq_false_iff.1 (hall x hx)).2
    · rintro ⟨⟨hnot, hnodup⟩, hall, hrules⟩
      refine ⟨_, add_eq_ok_iff.2 ⟨hall e List.mem_cons_self, rfl⟩, ?_⟩
      refine ih.2 ⟨hnodup, fun x hx => ?_, hrules⟩
      refine contains_insert_eq_false_iff.2 ⟨fun heq => ?_, hall x (List.mem_cons_of_mem _ hx)⟩
      exact hnot (heq ▸ List.mem_map_of_mem hx)

/-- Rules can be added to none exactly if no two of them are for one symbol, and
then the rule set consists of them. -/
theorem adds_empty_iff {l : List (Char × Word)} {rules : RuleSet} :
    Adds .empty l rules ↔ (l.map Prod.fst).Nodup ∧ rules = Table.ofList l := by
  rw [adds_iff]
  constructor
  · rintro ⟨hnodup, -, hrules⟩
    exact ⟨hnodup, hrules⟩
  · rintro ⟨hnodup, hrules⟩
    exact ⟨hnodup, fun e _ => rfl, hrules⟩

end RuleSet

end Camouflage
