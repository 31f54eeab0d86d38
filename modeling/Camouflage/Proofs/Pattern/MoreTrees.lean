/-
Camouflage/Proofs/Pattern/MoreTrees.lean

The number of trees has no influence on any of them.  A configuration with fewer
trees has the same fault as one with more, or a pattern with the same colors and
with the first of its trees (`generateFrom_withTrees`).

The checks do not look at the number of trees, so the fault is the same if there
is one.  If there is none, the longer run of growing trees goes through the
shorter one, and only pushes trees behind those that are there.
-/
import Camouflage.Proofs.Pattern.Trees

namespace Camouflage.Config

variable {α σ : Type} [Scalar α] [RandomSource σ]

/-- A configuration with another number of trees. -/
def withTrees (config : Config α) (count : UInt64) : Config α :=
  { config with treeCount := count }

variable {config : Config α}

/-! ### The checks -/

theorem Passes.withTrees {rules : RuleSet} (h : config.Passes rules) (count : UInt64) :
    (config.withTrees count).Passes rules :=
  ⟨h.valid, h.loaded, h.within, h.matched⟩

theorem FirstFault.withTrees {fault : Fault} (h : config.FirstFault fault) (count : UInt64) :
    (config.withTrees count).FirstFault fault := by
  cases h with
  | invalid hvalid => exact .invalid hvalid
  | unloadable hvalid hloaded => exact .unloadable hvalid hloaded
  | tooLong hvalid hloaded hlong => exact FirstFault.tooLong hvalid hloaded hlong
  | unmatched hvalid hloaded hwithin hcheck => exact .unmatched hvalid hloaded hwithin hcheck

/-! ### The trees -/

variable [Compass α] [Sampling α]

/-- How a tree grows does not depend on how many there are to be. -/
theorem growTrees_withTrees (count : UInt64) (foreground : List Color) (symbols : Word) (n : Nat)
    (trees : Array (Tree α)) (s : σ) :
    (config.withTrees count).growTrees foreground symbols n trees s
      = config.growTrees foreground symbols n trees s := by
  induction n generalizing trees s with
  | zero => rfl
  | succ n ih =>
    have htree : (config.withTrees count).growTree foreground symbols s
        = config.growTree foreground symbols s := rfl
    rw [growTrees_succ, growTrees_succ, htree]
    exact congrArg _ (funext fun p => ih (trees.push p.1) p.2)

/-- Where there are trees there could be fewer, and they would be the first ones. -/
theorem exists_fewer {n m : UInt64} (hle : n ≤ m) {more : Pattern α} {s : σ}
    (hmore : (config.withTrees m).generateFrom s = .ok more) :
    ∃ fewer, (config.withTrees n).generateFrom s = .ok fewer ∧
      fewer.background = more.background ∧ fewer.foreground = more.foreground ∧
      fewer.trees.size = n.toNat ∧ fewer.trees.toList = more.trees.toList.take n.toNat := by
  obtain ⟨hvalid, symbols, hsymbols, colors, s₁, trees, s₂, hcolors, hgrow, rfl⟩ :=
    generateFrom_eq_ok_iff.1 hmore
  obtain ⟨k, hk⟩ : ∃ k, m.toNat = n.toNat + k := Nat.exists_eq_add_of_le hle
  have hgrow : (config.withTrees m).growTrees colors.foreground symbols m.toNat #[] s₁
      = .ok (trees, s₂) := hgrow
  -- the longer run goes through the shorter one
  rw [growTrees_withTrees, hk, growTrees_add] at hgrow
  obtain ⟨⟨front, s₃⟩, hfront, hback⟩ := Outcome.bind_eq_ok_iff.1 hgrow
  obtain ⟨grown, -, hlength, hgrown⟩ := exists_grows hfront
  obtain ⟨later, -, -, htrees⟩ := exists_grows hback
  have hsize : front.toList.length = n.toNat := by
    rw [hgrown, List.length_append, List.length_map, hlength]
    exact Nat.zero_add _
  refine ⟨⟨colors.background, colors.foreground, front⟩, ?_, rfl, rfl, hsize, ?_⟩
  · refine generateFrom_eq_ok_iff.2
      ⟨hvalid, symbols, hsymbols, colors, s₁, front, s₃, hcolors, ?_, rfl⟩
    rw [growTrees_withTrees]
    exact hfront
  · show front.toList = trees.toList.take n.toNat
    rw [htrees, List.take_left' hsize]

/-- **More trees are trees at the end.**  On every stream, that of every seed among them: with fewer
trees and with more there is the same fault, or there are patterns with the same colors, and the
trees of the one are the first trees of the other. -/
theorem generateFrom_withTrees (config : Config α) {n m : UInt64} (hle : n ≤ m) (s : σ) :
    (∃ fault, (config.withTrees n).generateFrom s = .error fault ∧
      (config.withTrees m).generateFrom s = .error fault) ∨
    ∃ fewer more, (config.withTrees n).generateFrom s = .ok fewer ∧
      (config.withTrees m).generateFrom s = .ok more ∧
      fewer.background = more.background ∧ fewer.foreground = more.foreground ∧
      fewer.trees.size = n.toNat ∧ fewer.trees.toList = more.trees.toList.take n.toNat := by
  rcases config.passes_or_firstFault with ⟨rules, hpasses⟩ | ⟨fault, hfault⟩
  · obtain ⟨more, hmore⟩ := (hpasses.withTrees m).exists_pattern s
    obtain ⟨fewer, hfewer, hcolors⟩ := exists_fewer hle hmore
    exact Or.inr ⟨fewer, more, hfewer, hmore, hcolors⟩
  · exact Or.inl ⟨fault, (hfault.withTrees n).generateFrom s, (hfault.withTrees m).generateFrom s⟩

/-- The statement at a hedge of three trees and one of a thousand, of both of which there are
patterns. -/
theorem generateFrom_withTrees_hedge : (3 : UInt64) ≤ 1000 ∧
    ∃ fewer more, (hedge.withTrees 3).generate = .ok fewer ∧
      (hedge.withTrees 1000).generate = .ok more ∧
      fewer.background = more.background ∧ fewer.foreground = more.foreground ∧
      fewer.trees.size = 3 ∧ fewer.trees.toList = more.trees.toList.take 3 := by
  have hle : (3 : UInt64) ≤ 1000 := by decide
  rcases generateFrom_withTrees hedge hle (Keystream.ofSeed hedge.seed)
    with ⟨fault, hfault, -⟩ | hpatterns
  · obtain ⟨pattern, hpattern⟩ :=
      (hedge_passes.withTrees 3).exists_pattern (Keystream.ofSeed hedge.seed)
    rw [hpattern] at hfault
    cases hfault
  · exact ⟨hle, hpatterns⟩

end Camouflage.Config
