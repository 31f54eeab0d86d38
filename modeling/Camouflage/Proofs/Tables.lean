/-
Camouflage/Proofs/Tables.lean

Tables and lists of entries.  Looking up in a list whose keys are pairwise
different is the same as finding the entry in it, and the entries of a table
are such a list because they are ordered.

Writing such a list into a table, entry by entry, can therefore be read off the
list (`get?_ofList`), and a table is what its own entries make of the empty one
(`ofList_entries`).  These two facts are all that the readers of rule notation
need to know about the table they fill.
-/
import Camouflage.Table

namespace Camouflage.Table

variable {κ ν : Type} [LT κ] [DecidableEq κ]

/-! ### Lists with pairwise different keys -/

omit [LT κ] in
/-- A key is found exactly if an entry has it. -/
theorem lookup_eq_none_iff {k : κ} {l : List (κ × ν)} :
    lookup k l = none ↔ k ∉ l.map Prod.fst := by
  induction l with
  | nil => simp [lookup]
  | cons e rest ih =>
    by_cases h : k = e.1
    · simp [lookup, h]
    · simp [lookup, h, ih]

omit [LT κ] in
/-- Where no key repeats, what is found under a key is the entry that has it. -/
theorem lookup_eq_some_iff {k : κ} {v : ν} {l : List (κ × ν)}
    (nodup : (l.map Prod.fst).Nodup) : lookup k l = some v ↔ (k, v) ∈ l := by
  induction l with
  | nil => simp [lookup]
  | cons e rest ih =>
    obtain ⟨k', v'⟩ := e
    rw [List.map_cons, List.nodup_cons] at nodup
    by_cases h : k = k'
    · subst h
      have hnot : (k, v) ∉ rest := fun hmem =>
        nodup.1 (List.mem_map.2 ⟨(k, v), hmem, rfl⟩)
      simp [lookup, hnot, eq_comm]
    · simp [lookup, h, ih nodup.2]

/-! ### The entries of a table -/

section Entries

variable [KeyOrder κ]

omit [DecidableEq κ] in
/-- No key of a table repeats. -/
theorem nodup_keys (t : Table κ ν) : (t.entries.map Prod.fst).Nodup := by
  rw [List.Nodup, List.pairwise_map]
  refine t.sorted.imp ?_
  intro a b hlt heq
  exact KeyOrder.lt_irrefl b.1 (heq ▸ hlt)

/-- A table answers a key with the value it lists under it. -/
theorem get?_eq_some_iff {t : Table κ ν} {k : κ} {v : ν} :
    t.get? k = some v ↔ (k, v) ∈ t.entries :=
  lookup_eq_some_iff t.nodup_keys

omit [KeyOrder κ] in
theorem get?_eq_none_iff {t : Table κ ν} {k : κ} :
    t.get? k = none ↔ k ∉ t.entries.map Prod.fst :=
  lookup_eq_none_iff

omit [KeyOrder κ] in
theorem contains_eq_false_iff {t : Table κ ν} {k : κ} :
    t.contains k = false ↔ t.get? k = none := by
  rw [contains, Option.isSome_eq_false_iff, Option.isNone_iff_eq_none]

end Entries

/-! ### Tables from lists -/

section Lists

variable [KeyOrder κ] [DecidableLT κ]

/-- Entries written into a table are found before what was there. -/
theorem get?_foldl_insert {l : List (κ × ν)} (nodup : (l.map Prod.fst).Nodup)
    (t : Table κ ν) (k : κ) :
    (l.foldl (fun t e => t.insert e.1 e.2) t).get? k = (lookup k l).or (t.get? k) := by
  induction l generalizing t with
  | nil => rfl
  | cons e rest ih =>
    rw [List.map_cons, List.nodup_cons] at nodup
    rw [List.foldl_cons, ih nodup.2, get?_insert]
    by_cases h : k = e.1
    · have hnone : lookup k rest = none := lookup_eq_none_iff.2 (h ▸ nodup.1)
      rw [hnone]
      simp [lookup, h]
    · simp [lookup, h]

theorem get?_ofList {l : List (κ × ν)} (nodup : (l.map Prod.fst).Nodup) (k : κ) :
    (ofList l).get? k = lookup k l := by
  rw [ofList, get?_foldl_insert nodup, get?_empty, Option.or_none]

/-- The keys of a table made of a list are those of the list. -/
theorem contains_ofList {l : List (κ × ν)} (nodup : (l.map Prod.fst).Nodup) (k : κ) :
    (ofList l).contains k = true ↔ k ∈ l.map Prod.fst := by
  rw [contains, get?_ofList nodup, Option.isSome_iff_ne_none, ne_eq, lookup_eq_none_iff,
    Classical.not_not]

/-- A table made of a list holds the entries of the list and nothing else. -/
theorem mem_entries_ofList {l : List (κ × ν)} (nodup : (l.map Prod.fst).Nodup)
    {e : κ × ν} : e ∈ (ofList l).entries ↔ e ∈ l := by
  obtain ⟨k, v⟩ := e
  rw [← get?_eq_some_iff, get?_ofList nodup, lookup_eq_some_iff nodup]

/-- A table is made of a list exactly if it has the same entries. -/
theorem eq_ofList_iff {l : List (κ × ν)} (nodup : (l.map Prod.fst).Nodup) {t : Table κ ν} :
    t = ofList l ↔ ∀ e, e ∈ t.entries ↔ e ∈ l := by
  constructor
  · rintro rfl e
    exact mem_entries_ofList nodup
  · intro h
    refine ext_get? fun k => Option.ext fun v => ?_
    rw [get?_eq_some_iff, get?_eq_some_iff, mem_entries_ofList nodup]
    exact h (k, v)

/-- The entries of a table make that table. -/
theorem ofList_entries (t : Table κ ν) : ofList t.entries = t := by
  refine ext_get? fun k => ?_
  rw [get?_ofList t.nodup_keys]
  rfl

end Lists

end Camouflage.Table
