/-
Camouflage/Proofs/Pattern/Checks.lean

The checks at the beginning are all that can fail.  A pattern comes out exactly if
the numbers are in their domains, the rules load, the last generation is within
the symbol limit and its brackets match (`Config.Passes`), and otherwise the fault
is that of the first of these four checks that fails (`Config.FirstFault`).

What can fail later has been checked before.  The numbers in their domains leave
enough colors to select and pen widths to pick (`Supplied`), matching brackets let
the turtle draw from every start and on every stream, and the ranges of positions,
headings and jitter are never empty.
-/
import Camouflage.Proofs.Palette.Selecting
import Camouflage.Proofs.Pattern.Ranges
import Camouflage.Proofs.Pattern.SymbolLimit
import Camouflage.Proofs.Turtle.BranchStack

namespace Camouflage

variable {α σ : Type} [Scalar α] [RandomSource σ]

/-- A range that is not upside down has a width to pick. -/
theorem ThicknessRange.exists_pick {range : ThicknessRange}
    (h : range.least.toNat ≤ range.greatest.toNat) (s : σ) :
    ∃ thickness s', range.pick s = .ok (thickness, s') := by
  have hpos : 0 < range.greatest.toNat + 1 - range.least.toNat := by omega
  rw [pick, dif_pos hpos]
  exact ⟨_, _, rfl⟩

namespace Config

variable {config : Config α} {rules : RuleSet}

/-! ### The checks -/

/-- The word trees are drawn from, before anything is known about its length and its brackets. -/
def lastGeneration (config : Config α) (rules : RuleSet) : Word :=
  expand config.start rules config.depth.toNat

/-- A configuration with nothing to complain about. -/
structure Passes (config : Config α) (rules : RuleSet) : Prop where
  valid : config.validate = .ok ()
  loaded : config.rules.load = .ok rules
  within : (config.lastGeneration rules).length ≤ config.symbolLimit.toNat
  matched : BracketsMatch (config.lastGeneration rules)

/-- The fault of the first check that fails. -/
inductive FirstFault (config : Config α) : Fault → Prop
  /-- a number is outside its domain -/
  | invalid {fault : Fault} (h : config.validate = .error fault) : FirstFault config fault
  /-- the rules cannot be loaded -/
  | unloadable {fault : Fault} (valid : config.validate = .ok ())
    (h : config.rules.load = .error fault) : FirstFault config fault
  /-- the last generation has too many symbols -/
  | tooLong {rules : RuleSet} (valid : config.validate = .ok ())
    (loaded : config.rules.load = .ok rules)
    (h : config.symbolLimit.toNat < (config.lastGeneration rules).length) :
    FirstFault config (.config (.tooManySymbols config.depth.toNat
      (min (config.lastGeneration rules).length (2 ^ 128 - 1)) config.symbolLimit.toNat))
  /-- brackets do not match -/
  | unmatched {rules : RuleSet} {fault : Fault} (valid : config.validate = .ok ())
    (loaded : config.rules.load = .ok rules)
    (within : (config.lastGeneration rules).length ≤ config.symbolLimit.toNat)
    (h : checkBranches (config.lastGeneration rules) = .error fault) : FirstFault config fault

/-- Either nothing is to complain about or something comes first. -/
theorem passes_or_firstFault (config : Config α) :
    (∃ rules, config.Passes rules) ∨ ∃ fault, config.FirstFault fault := by
  cases hvalid : config.validate with
  | error fault => exact Or.inr ⟨fault, .invalid hvalid⟩
  | ok _ =>
    cases hloaded : config.rules.load with
    | error fault => exact Or.inr ⟨fault, .unloadable hvalid hloaded⟩
    | ok rules =>
      rcases Nat.lt_or_ge config.symbolLimit.toNat (config.lastGeneration rules).length
        with hlong | hwithin
      · exact Or.inr ⟨_, .tooLong hvalid hloaded hlong⟩
      · cases hcheck : checkBranches (config.lastGeneration rules) with
        | error fault => exact Or.inr ⟨fault, .unmatched hvalid hloaded hwithin hcheck⟩
        | ok _ =>
          exact Or.inl ⟨rules, hvalid, hloaded, hwithin, checkBranches_eq_ok_iff.1 hcheck⟩

/-! ### What the checks leave to draw from -/

/-- There are colors to select and a pen width to pick. -/
structure Supplied (config : Config α) : Prop where
  palette : config.palette.validate = .ok ()
  some_colors : 0 < config.colorCount.toNat
  enough_colors : config.colorCount.toNat ≤ config.palette.mostForeground
  thickness : config.thickness.least.toNat ≤ config.thickness.greatest.toNat

theorem supplied_of_validate (h : config.validate = .ok ()) : config.Supplied := by
  rw [validate] at h
  dsimp only at h
  split at h
  · cases h
  obtain ⟨_, hpalette, h⟩ := Outcome.bind_eq_ok_iff.1 h
  split at h
  · cases h
  next hcount =>
  split at h
  · cases h
  next hthickness =>
  rw [not_or] at hcount
  rw [not_or, not_or] at hthickness
  refine ⟨hpalette, ?_, Nat.not_lt.1 hcount.2, Nat.not_lt.1 hthickness.2.1⟩
  have hne : config.colorCount.toNat ≠ 0 := fun heq => hcount.1 (UInt64.toNat_inj.1 heq)
  omega

/-- The symbols are the last generation. -/
theorem Passes.prepareSymbols (h : config.Passes rules) :
    config.prepareSymbols = .ok (config.lastGeneration rules) := by
  rw [prepareSymbols_of_le_limit h.loaded h.within]
  show (checkBranches (config.lastGeneration rules)).map _ = _
  rw [checkBranches_eq_ok_iff.2 h.matched]
  rfl

variable [Compass α] [Sampling α]

/-- A tree grows from every stream. -/
theorem exists_growTree (hsupplied : config.Supplied) {foreground : List Color}
    (hcolors : 0 < foreground.length) {symbols : Word} (hcheck : checkBranches symbols = .ok ())
    (s : σ) : ∃ tree s', config.growTree foreground symbols s = .ok (tree, s') := by
  obtain ⟨thickness, s₁, hpick⟩ :=
    ThicknessRange.exists_pick hsupplied.thickness (config.setOut s).2
  obtain ⟨color, s₂, hchoose⟩ := Random.exists_choose hcolors s₁
  obtain ⟨walk, s₃, hdraw, -⟩ :=
    (config.turtle (config.setOut s).1.2).exists_draw_of_ok hcheck (config.setOut s).1.1 s₂
  exact ⟨_, s₃, growTree_eq_ok_iff.2 ⟨thickness, s₁, color, s₂, walk, hpick, hchoose, hdraw, rfl⟩⟩

/-- So do any number of trees. -/
theorem exists_growTrees (hsupplied : config.Supplied) {foreground : List Color}
    (hcolors : 0 < foreground.length) {symbols : Word} (hcheck : checkBranches symbols = .ok ())
    (n : Nat) (trees : Array (Tree α)) (s : σ) :
    ∃ trees' s', config.growTrees foreground symbols n trees s = .ok (trees', s') := by
  induction n generalizing trees s with
  | zero => exact ⟨trees, s, rfl⟩
  | succ n ih =>
    obtain ⟨tree, s₁, htree⟩ := exists_growTree hsupplied hcolors hcheck s
    obtain ⟨trees', s', htrees⟩ := ih (trees.push tree) s₁
    refine ⟨trees', s', ?_⟩
    rw [growTrees_succ, htree]
    exact htrees

/-- Once the checks are passed there is a pattern. -/
theorem Passes.exists_pattern (h : config.Passes rules) (s : σ) :
    ∃ pattern, config.generateFrom s = .ok pattern := by
  have hsupplied := supplied_of_validate h.valid
  obtain ⟨colors, s₁, hcolors, hlength⟩ := exists_selectColors hsupplied.palette
    hsupplied.some_colors hsupplied.enough_colors s
  have hsome : 0 < colors.foreground.length := hlength ▸ hsupplied.some_colors
  obtain ⟨trees, s₂, htrees⟩ := exists_growTrees hsupplied hsome
    (checkBranches_eq_ok_iff.2 h.matched) config.treeCount.toNat #[] s₁
  exact ⟨_, generateFrom_eq_ok_iff.2
    ⟨h.valid, _, h.prepareSymbols, colors, s₁, trees, s₂, hcolors, htrees, rfl⟩⟩

/-- The first fault is the one that is reported. -/
theorem FirstFault.generateFrom {fault : Fault} (h : config.FirstFault fault) (s : σ) :
    config.generateFrom s = .error fault := by
  have hprepare {fault : Fault} (hvalid : config.validate = .ok ())
      (hfault : config.prepareSymbols = .error fault) : config.generateFrom s = .error fault := by
    rw [Config.generateFrom, hvalid, hfault]
    rfl
  cases h with
  | invalid hvalid =>
    rw [Config.generateFrom, hvalid]
    rfl
  | unloadable hvalid hloaded =>
    refine hprepare hvalid ?_
    rw [Config.prepareSymbols, hloaded]
    rfl
  | tooLong hvalid hloaded hlong =>
    refine hprepare hvalid ?_
    rw [prepareSymbols_of_limit_lt hloaded hlong, expandedLength_eq_stopped]
    rfl
  | @unmatched rules _ hvalid hloaded hwithin hcheck =>
    refine hprepare hvalid ?_
    rw [prepareSymbols_of_le_limit hloaded hwithin]
    show (checkBranches (config.lastGeneration rules)).map _ = _
    rw [hcheck]
    rfl

end Config

/-- **The checks are exact.**  On every stream, that of every seed among them, and for any number of
trees: there is a pattern exactly if the four checks are passed, and otherwise the fault is that of
the first one that fails.  No range of numbers is empty or without bounds, and what would be drawn
from any other range makes no difference. -/
theorem Config.generateFrom_exact (config : Config Float) (s : σ) :
    ((∃ pattern, config.generateFrom s = .ok pattern) ↔ ∃ rules, config.Passes rules) ∧
    (∀ fault, config.generateFrom s = .error fault ↔ config.FirstFault fault) ∧
    (∀ range ∈ config.numberRanges, range.Drawable) ∧
    ∀ sampling : Sampling Float, sampling.AlikeOn inferInstance config.numberRanges →
      config.generateWith sampling s = config.generateFrom s := by
  refine ⟨⟨?_, ?_⟩, fun fault => ⟨?_, fun h => h.generateFrom s⟩,
    config.drawable_of_mem_numberRanges, fun sampling h => generateFrom_alike h s⟩
  · rintro ⟨pattern, hpattern⟩
    rcases config.passes_or_firstFault with hpasses | ⟨fault, hfault⟩
    · exact hpasses
    · rw [hfault.generateFrom s] at hpattern
      cases hpattern
  · rintro ⟨rules, hpasses⟩
    exact hpasses.exists_pattern s
  · intro h
    rcases config.passes_or_firstFault with ⟨rules, hpasses⟩ | ⟨fault', hfault⟩
    · obtain ⟨pattern, hpattern⟩ := hpasses.exists_pattern s
      rw [hpattern] at h
      cases h
    · rw [hfault.generateFrom s] at h
      cases h
      exact hfault

end Camouflage
