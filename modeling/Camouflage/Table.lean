/-
Camouflage/Table.lean

Finite tables in key order.  A table is an association list whose keys
strictly increase; the order is part of the type, so two tables that answer
every look-up alike are the same table (`Table.ext_get?`).

Rule sets (symbol to replacement), rule tables of a config file (text to
text), symbol counts and directory contents are all tables: what differs is
only the key type and who may write to it.

The only writing operation is `insert`, which replaces the value of a key that
is already there.  `get?_insert` is the one fact about it that later files use.
Of the keys it needs to be known that they are strictly ordered (`KeyOrder`),
as characters are, strings, and lists of either.
-/
namespace Camouflage

/-! ### Keys -/

/-- A strict linear order. -/
class KeyOrder (κ : Type) [LT κ] : Prop where
  lt_irrefl (a : κ) : ¬ a < a
  lt_trans {a b c : κ} : a < b → b < c → a < c
  lt_trichotomy (a b : κ) : a < b ∨ a = b ∨ b < a

instance : KeyOrder Char where
  lt_irrefl := Char.lt_irrefl
  lt_trans := Char.lt_trans
  lt_trichotomy a b := by
    rcases Nat.lt_trichotomy a.toNat b.toNat with h | h | h
    · exact Or.inl h
    · exact Or.inr (Or.inl (Char.toNat_inj.1 h))
    · exact Or.inr (Or.inr h)

instance {κ : Type} [LT κ] [KeyOrder κ] : KeyOrder (List κ) where
  lt_irrefl a := by
    induction a with
    | nil => simp
    | cons x xs ih => simp [List.cons_lt_cons_iff, KeyOrder.lt_irrefl, ih]
  lt_trans {a b c} hab hbc := by
    induction a generalizing b c with
    | nil =>
      cases b with
      | nil => simp at hab
      | cons y ys =>
        cases c with
        | nil => simp at hbc
        | cons z zs => simp
    | cons x xs ih =>
      cases b with
      | nil => simp at hab
      | cons y ys =>
        cases c with
        | nil => simp at hbc
        | cons z zs =>
          rw [List.cons_lt_cons_iff] at hab hbc ⊢
          rcases hab with hxy | ⟨rfl, hxs⟩
          · rcases hbc with hyz | ⟨rfl, _⟩
            · exact Or.inl (KeyOrder.lt_trans hxy hyz)
            · exact Or.inl hxy
          · rcases hbc with hyz | ⟨rfl, hys⟩
            · exact Or.inl hyz
            · exact Or.inr ⟨rfl, ih hxs hys⟩
  lt_trichotomy a b := by
    induction a generalizing b with
    | nil => cases b <;> simp
    | cons x xs ih =>
      cases b with
      | nil => simp
      | cons y ys =>
        simp only [List.cons_lt_cons_iff, List.cons.injEq]
        rcases KeyOrder.lt_trichotomy x y with h | rfl | h
        · exact Or.inl (Or.inl h)
        · rcases ih ys with h | rfl | h
          · exact Or.inl (Or.inr ⟨rfl, h⟩)
          · exact Or.inr (Or.inl ⟨rfl, rfl⟩)
          · exact Or.inr (Or.inr (Or.inr ⟨rfl, h⟩))
        · exact Or.inr (Or.inr (Or.inl h))

instance : KeyOrder String where
  lt_irrefl a := by
    rw [String.lt_iff]
    exact KeyOrder.lt_irrefl a.toList
  lt_trans {a b c} hab hbc := by
    rw [String.lt_iff] at hab hbc ⊢
    exact KeyOrder.lt_trans hab hbc
  lt_trichotomy a b := by
    rw [String.lt_iff, String.lt_iff, ← String.toList_inj]
    exact KeyOrder.lt_trichotomy a.toList b.toList

/-- A finite map, stored as entries in strictly increasing key order. -/
structure Table (κ ν : Type) [LT κ] where
  /-- the entries, smallest key first -/
  entries : List (κ × ν)
  sorted : entries.Pairwise (fun a b => a.1 < b.1)

namespace Table

variable {κ ν : Type} [LT κ]

/-- The table without entries. -/
def empty : Table κ ν := ⟨[], List.Pairwise.nil⟩

instance : Inhabited (Table κ ν) := ⟨empty⟩

instance [DecidableEq κ] [DecidableEq ν] : DecidableEq (Table κ ν) := fun a b =>
  if h : a.entries = b.entries then
    isTrue (by cases a; cases b; simp_all)
  else
    isFalse (fun e => h (e ▸ rfl))

/-! ### Reading -/

/-- The value of the first entry under a key. -/
def lookup [DecidableEq κ] (k : κ) : List (κ × ν) → Option ν
  | [] => none
  | (k', v) :: rest => if k = k' then some v else lookup k rest

/-- The value under `k`, if the table has one. -/
def get? [DecidableEq κ] (t : Table κ ν) (k : κ) : Option ν := lookup k t.entries

/-- Whether the table has an entry under `k`. -/
def contains [DecidableEq κ] (t : Table κ ν) (k : κ) : Bool := (t.get? k).isSome

/-- The number of entries. -/
def size (t : Table κ ν) : Nat := t.entries.length

/-- Whether the table has no entry. -/
def isEmpty (t : Table κ ν) : Bool := t.entries.isEmpty

/-- The keys, smallest first. -/
def keys (t : Table κ ν) : List κ := t.entries.map (·.1)

/-! ### Writing -/

/-- Puts an entry into its place in an ordered list, over an equal key. -/
def place [DecidableLT κ] [DecidableEq κ] (k : κ) (v : ν) : List (κ × ν) → List (κ × ν)
  | [] => [(k, v)]
  | (k', v') :: rest =>
    if k < k' then (k, v) :: (k', v') :: rest
    else if k = k' then (k, v) :: rest
    else (k', v') :: place k v rest

theorem mem_place [DecidableLT κ] [DecidableEq κ] {k : κ} {v : ν} {e : κ × ν}
    {l : List (κ × ν)} (h : e ∈ place k v l) : e = (k, v) ∨ e ∈ l := by
  induction l with
  | nil => simpa [place] using h
  | cons hd tl ih =>
    obtain ⟨k', v'⟩ := hd
    rw [place] at h
    split at h
    · simpa using h
    · split at h
      · rcases List.mem_cons.1 h with h | h
        · exact Or.inl h
        · exact Or.inr (List.mem_cons_of_mem _ h)
      · rcases List.mem_cons.1 h with h | h
        · exact Or.inr (h ▸ List.mem_cons_self)
        · exact (ih h).imp id (List.mem_cons_of_mem _)

section Order

variable [KeyOrder κ] [DecidableLT κ] [DecidableEq κ]

theorem sorted_place (k : κ) (v : ν) {l : List (κ × ν)}
    (h : l.Pairwise (fun a b => a.1 < b.1)) :
    (place k v l).Pairwise (fun a b => a.1 < b.1) := by
  induction l with
  | nil => simp [place]
  | cons hd tl ih =>
    obtain ⟨k', v'⟩ := hd
    obtain ⟨hhead, htail⟩ := List.pairwise_cons.1 h
    rw [place]
    split
    · rename_i hlt
      refine List.pairwise_cons.2 ⟨fun e he => ?_, h⟩
      rcases List.mem_cons.1 he with rfl | he
      · exact hlt
      · exact KeyOrder.lt_trans hlt (hhead e he)
    · rename_i hnot
      split
      · rename_i heq
        subst heq
        exact List.pairwise_cons.2 ⟨hhead, htail⟩
      · rename_i hne
        refine List.pairwise_cons.2 ⟨fun e he => ?_, ih htail⟩
        rcases mem_place he with rfl | he
        · exact ((KeyOrder.lt_trichotomy k k').resolve_left hnot).resolve_left hne
        · exact hhead e he

/-- The table with `v` under `k`, whatever was there. -/
def insert (t : Table κ ν) (k : κ) (v : ν) : Table κ ν :=
  ⟨place k v t.entries, sorted_place k v t.sorted⟩

/-- The table of a list of entries; of two entries under one key the later one stays. -/
def ofList (entries : List (κ × ν)) : Table κ ν :=
  entries.foldl (fun t e => t.insert e.1 e.2) empty

end Order

/-! ### Laws -/

@[simp] theorem get?_empty [DecidableEq κ] (k : κ) : (empty : Table κ ν).get? k = none := rfl

theorem lookup_eq_none_of_lt [DecidableEq κ] [KeyOrder κ] {k : κ} {l : List (κ × ν)}
    (h : ∀ e ∈ l, k < e.1) : lookup k l = none := by
  induction l with
  | nil => rfl
  | cons hd tl ih =>
    obtain ⟨k', v'⟩ := hd
    have hne : k ≠ k' := fun e =>
      KeyOrder.lt_irrefl k' (e ▸ h (k', v') List.mem_cons_self)
    simp [lookup, hne, ih fun e he => h e (List.mem_cons_of_mem _ he)]

section Laws

variable [KeyOrder κ] [DecidableLT κ] [DecidableEq κ]

omit [KeyOrder κ] in
theorem lookup_place (k k' : κ) (v : ν) (l : List (κ × ν)) :
    lookup k' (place k v l) = if k' = k then some v else lookup k' l := by
  induction l with
  | nil => simp [place, lookup]
  | cons hd tl ih =>
    obtain ⟨k₀, v₀⟩ := hd
    rw [place]
    split
    · simp [lookup]
    · split
      · rename_i h; subst h
        by_cases hk : k' = k <;> simp [lookup, hk]
      · rename_i hne
        by_cases hk : k' = k₀
        · subst hk
          simp [lookup, Ne.symm hne]
        · simp [lookup, hk, ih]

/-- Writing under one key is seen by reading that key, and by no other reading. -/
@[simp] theorem get?_insert (t : Table κ ν) (k k' : κ) (v : ν) :
    (t.insert k v).get? k' = if k' = k then some v else t.get? k' :=
  lookup_place k k' v t.entries

omit [DecidableLT κ] in
theorem entries_eq_of_lookup_eq {l l' : List (κ × ν)}
    (h : l.Pairwise (fun a b => a.1 < b.1)) (h' : l'.Pairwise (fun a b => a.1 < b.1))
    (same : ∀ k, lookup k l = lookup k l') : l = l' := by
  induction l generalizing l' with
  | nil =>
    cases l' with
    | nil => rfl
    | cons hd _ => simpa [lookup] using same hd.1
  | cons hd tl ih =>
    obtain ⟨k, v⟩ := hd
    obtain ⟨hk, htl⟩ := List.pairwise_cons.1 h
    cases l' with
    | nil => simpa [lookup] using same k
    | cons hd' tl' =>
      obtain ⟨k', v'⟩ := hd'
      obtain ⟨hk', htl'⟩ := List.pairwise_cons.1 h'
      have atk := same k
      have atk' := same k'
      rcases KeyOrder.lt_trichotomy k k' with hlt | heq | hgt
      · have hne : k ≠ k' := fun e => KeyOrder.lt_irrefl k' (e ▸ hlt)
        have hnone : lookup k tl' = none :=
          lookup_eq_none_of_lt fun e he => KeyOrder.lt_trans hlt (hk' e he)
        simp [lookup, hne, hnone] at atk
      · subst heq
        have hv : v = v' := by simpa [lookup] using atk
        subst hv
        refine congrArg _ (ih htl htl' fun q => ?_)
        by_cases hq : q = k
        · subst hq
          rw [lookup_eq_none_of_lt hk, lookup_eq_none_of_lt hk']
        · simpa [lookup, hq] using same q
      · have hne : k' ≠ k := fun e => KeyOrder.lt_irrefl k (e ▸ hgt)
        have hnone : lookup k' tl = none :=
          lookup_eq_none_of_lt fun e he => KeyOrder.lt_trans hgt (hk e he)
        simp [lookup, hne, hnone] at atk'

omit [DecidableLT κ] in
/-- A table is determined by its answers. -/
theorem ext_get? {t t' : Table κ ν} (same : ∀ k, t.get? k = t'.get? k) : t = t' := by
  have := entries_eq_of_lookup_eq t.sorted t'.sorted same
  cases t; cases t'; simp_all

end Laws

end Table

end Camouflage
