/-
Camouflage/Proofs/Random/Samples.lean

What a sample is made of.  Whatever the random words are, `sampleIndices` gives
exactly as many numbers as it is asked for, all below the bound and none twice
(`picks_sampleIndices`), provided that there are so many.

A shuffle only moves numbers around.  Floyd's method adds one number for every
`top`, and this number is new: a number that has been drawn before is replaced by
`top` itself, which no earlier draw could reach (`Picks.add`).

The elements of a list are sampled by their positions.  What they are has no
influence, so a sample of an image is the image of a sample (`sample_map`).
-/
import Mathlib.Data.List.InsertIdx
import Mathlib.Data.List.Nodup
import Camouflage.Random.Sample

namespace Camouflage.Random

open List

variable {σ : Type} [RandomSource σ]

/-- Numbers below a bound, none of them twice. -/
structure Picks (top : Nat) (numbers : List Nat) : Prop where
  nodup : numbers.Nodup
  below : ∀ i ∈ numbers, i < top

theorem Picks.perm {top : Nat} {numbers numbers' : List Nat} (h : Picks top numbers)
    (hperm : numbers' ~ numbers) : Picks top numbers' where
  nodup := hperm.nodup_iff.2 h.nodup
  below := fun i hi => h.below i (hperm.mem_iff.1 hi)

/-! ### Shuffles -/

theorem swapIfInBounds_perm (numbers : Array Nat) (i j : Nat) :
    (numbers.swapIfInBounds i j).toList ~ numbers.toList := by
  rw [Array.swapIfInBounds]
  split
  · split
    · exact Array.perm_iff_toList_perm.1 (Array.swap_perm _ _)
    · exact Perm.refl _
  · exact Perm.refl _

theorem shuffleFront_perm (numbers : Array Nat) (i steps : Nat) (s : σ) :
    (shuffleFront numbers i steps s).1.toList ~ numbers.toList := by
  induction steps generalizing numbers i s with
  | zero => exact Perm.refl _
  | succ steps ih =>
    rw [shuffleFront]
    split
    · exact (ih _ _ _).trans (swapIfInBounds_perm _ _ _)
    · exact Perm.refl _

theorem shuffleDown_perm (numbers : Array Nat) (i : Nat) (s : σ) :
    (shuffleDown numbers i s).1.toList ~ numbers.toList := by
  induction i generalizing numbers s with
  | zero => exact Perm.refl _
  | succ i ih => exact (ih _ _).trans (swapIfInBounds_perm _ _ _)

theorem picks_sampleInPlace {length n : Nat} (hn : n ≤ length) (s : σ) :
    Picks length (sampleInPlace length n s).1 ∧ (sampleInPlace length n s).1.length = n := by
  have hperm := shuffleFront_perm (Array.range length) 0 n s
  rw [Array.toList_range] at hperm
  have hall : Picks length (List.range length) := ⟨nodup_range, fun i hi => mem_range.1 hi⟩
  have hshuffled := hall.perm hperm
  refine ⟨⟨?_, fun i hi => hshuffled.below i (mem_of_mem_take hi)⟩, ?_⟩
  · exact hshuffled.nodup.sublist (take_sublist _ _)
  · show (take n _).length = n
    rw [length_take, hperm.length_eq, length_range]
    exact Nat.min_eq_left hn

/-! ### Floyd's method -/

/-- The number that comes to a sample: the one drawn, or `top` if it is there already. -/
def newcomer (sample : List Nat) (drawn top : Nat) : Nat := if drawn ∈ sample then top else drawn

theorem addOrdered_perm (sample : List Nat) (drawn top : Nat) :
    addOrdered sample drawn top ~ newcomer sample drawn top :: sample := by
  rw [addOrdered, newcomer]
  cases hindex : sample.idxOf? drawn with
  | none =>
    have hnew : drawn ∉ sample := idxOf?_eq_none_iff.1 hindex
    rw [if_neg hnew]
    exact perm_append_singleton _ _
  | some position =>
    obtain ⟨hposition, hdrawn, -⟩ := idxOf?_eq_some_iff.1 hindex
    have hold : drawn ∈ sample := hdrawn ▸ getElem_mem hposition
    rw [if_pos hold]
    exact perm_insertIdx _ _ (Nat.le_of_lt hposition)

theorem addUnordered_perm (sample : List Nat) (drawn top : Nat) :
    addUnordered sample drawn top ~ newcomer sample drawn top :: sample := by
  rw [addUnordered, newcomer]
  split
  · exact perm_append_singleton _ _
  · exact perm_append_singleton _ _

/-- The newcomer is new, as nothing in the sample has reached `top`. -/
theorem Picks.add {top drawn : Nat} {sample : List Nat} (h : Picks top sample)
    (hdrawn : drawn ≤ top) : Picks (top + 1) (newcomer sample drawn top :: sample) := by
  have hnew : newcomer sample drawn top ∉ sample ∧ newcomer sample drawn top ≤ top := by
    rw [newcomer]
    split
    · exact ⟨fun hmem => absurd (h.below top hmem) (Nat.lt_irrefl top), Nat.le_refl top⟩
    · next hmem => exact ⟨hmem, hdrawn⟩
  refine ⟨nodup_cons.2 ⟨hnew.1, h.nodup⟩, fun i hi => ?_⟩
  rcases mem_cons.1 hi with rfl | hi
  · exact Nat.lt_succ_of_le hnew.2
  · exact Nat.lt_succ_of_lt (h.below i hi)

theorem picks_floyd {add : List Nat → Nat → Nat → List Nat}
    (hadd : ∀ sample drawn top, add sample drawn top ~ newcomer sample drawn top :: sample)
    {sample : List Nat} {top : Nat} (h : Picks top sample) (steps : Nat) (s : σ) :
    Picks (top + steps) (floyd add sample top steps s).1 ∧
      (floyd add sample top steps s).1.length = sample.length + steps := by
  induction steps generalizing sample top s with
  | zero => exact ⟨h, rfl⟩
  | succ steps ih =>
    rw [floyd]
    generalize drawBelow .short (Nat.succ_pos top) s = drawn
    have hperm := hadd sample drawn.1 top
    have hpicks := (h.add (Nat.le_of_lt_succ drawn.1.isLt)).perm hperm
    obtain ⟨hrest, hlength⟩ := ih hpicks drawn.2
    rw [hperm.length_eq, length_cons] at hlength
    rw [Nat.add_right_comm] at hrest
    refine ⟨hrest, ?_⟩
    show (floyd add (add sample drawn.1 top) (top + 1) steps drawn.2).1.length = _
    omega

theorem picks_sampleByFloyd {length n : Nat} (hn : n ≤ length) (s : σ) :
    Picks length (sampleByFloyd length n s).1 ∧ (sampleByFloyd length n s).1.length = n := by
  have hempty : Picks (length - n) [] := ⟨nodup_nil, fun i hi => absurd hi not_mem_nil⟩
  rw [sampleByFloyd]
  split
  · have h := picks_floyd addOrdered_perm hempty n s
    rw [Nat.sub_add_cancel hn, length_nil, Nat.zero_add] at h
    exact h
  · obtain ⟨hpicks, hlength⟩ := picks_floyd addUnordered_perm hempty n s
    rw [Nat.sub_add_cancel hn] at hpicks
    rw [length_nil, Nat.zero_add] at hlength
    generalize floyd addUnordered [] (length - n) n s = p at hpicks hlength
    have hperm := shuffleDown_perm p.1.toArray (n - 1) p.2
    exact ⟨hpicks.perm hperm, hperm.length_eq.trans hlength⟩

/-! ### Samples -/

/-- **Indices.**  A sample of positions has as many as asked for, all of them below the bound and
none twice. -/
theorem picks_sampleIndices {length n : Nat} (hn : n ≤ length) (s : σ) :
    Picks length (sampleIndices length n s).1 ∧ (sampleIndices length n s).1.length = n := by
  rw [sampleIndices]
  split
  · exact picks_sampleInPlace hn s
  · exact picks_sampleByFloyd hn s

theorem length_sample {α : Type} {pool : List α} {n : Nat} (hn : n ≤ pool.length) (s : σ) :
    (sample pool n s).1.length = n := by
  obtain ⟨hpicks, hlength⟩ := picks_sampleIndices hn s
  rw [sample]
  generalize sampleIndices pool.length n s = p at hpicks hlength
  show (filterMap (fun i => pool.toArray[i]?) p.1).length = n
  rw [filterMap_length_eq_length.2 ?_, hlength]
  intro i hi
  have hbound := hpicks.below i hi
  simpa using hbound

/-- A sample has elements of the list, and none twice if there are none twice in the list. -/
theorem nodup_sample {α : Type} {pool : List α} (hpool : pool.Nodup) {n : Nat}
    (hn : n ≤ pool.length) (s : σ) :
    (sample pool n s).1.Nodup ∧ ∀ x ∈ (sample pool n s).1, x ∈ pool := by
  obtain ⟨hpicks, -⟩ := picks_sampleIndices hn s
  rw [sample]
  generalize sampleIndices pool.length n s = p at hpicks
  show (filterMap (fun i => pool.toArray[i]?) p.1).Nodup ∧
    ∀ x ∈ filterMap (fun i => pool.toArray[i]?) p.1, x ∈ pool
  simp only [getElem?_toArray]
  constructor
  · refine hpicks.nodup.filterMap ?_
    intro i j x hi hj
    obtain ⟨hilt, hi⟩ := List.getElem?_eq_some_iff.1 hi
    obtain ⟨hjlt, hj⟩ := List.getElem?_eq_some_iff.1 hj
    exact hpool.getElem_inj_iff.1 (hi.trans hj.symm)
  · intro x hx
    obtain ⟨i, -, hi⟩ := mem_filterMap.1 hx
    exact mem_of_getElem? hi

/-! ### Images -/

/-- A sample of an image is the image of the sample. -/
theorem sample_map {α β : Type} (f : α → β) (pool : List α) (n : Nat) (s : σ) :
    sample (pool.map f) n s = ((sample pool n s).1.map f, (sample pool n s).2) := by
  rw [sample, sample, length_map]
  dsimp only
  rw [map_filterMap]
  refine congrArg₂ Prod.mk (congrArg₂ _ ?_ rfl) rfl
  funext i
  rw [getElem?_toArray, getElem?_toArray, getElem?_map]

/-- Draws below equal bounds are the same. -/
theorem drawBelow_of_eq {size : WordSize} {n m : Nat} (heq : n = m) (hn : 0 < n) (hm : 0 < m)
    (s : σ) :
    drawBelow size hn s = ((drawBelow size hm s).1.cast heq.symm, (drawBelow size hm s).2) := by
  subst heq
  rfl

/-- An element of an image is chosen as the image of an element. -/
theorem choose_map {α β : Type} (f : α → β) (pool : List α) (s : σ) :
    choose (pool.map f) s = (choose pool s).map fun p => (f p.1, p.2) := by
  rw [choose, choose]
  by_cases h : 0 < pool.length
  · have hmap : 0 < (pool.map f).length := by rwa [length_map]
    rw [dif_pos h, dif_pos hmap, drawBelow_of_eq (length_map f) hmap h]
    show some ((pool.map f)[(drawBelow .short h s).1.val], _) = _
    rw [getElem_map]
    rfl
  · rw [dif_neg h, dif_neg (by rwa [length_map])]
    rfl

end Camouflage.Random
