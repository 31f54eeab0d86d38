/-
Camouflage/Proofs/Pattern/Trees.lean

The trees of a pattern, one after the other.  A tree sprouts at a place of the
stream: start and parameters, pen width and color are drawn there, and then the
turtle walks (`Config.Sprouts`).  The next tree sprouts where that walk left the
stream (`Config.Grows`).  Every pattern is made of such trees (`exists_grown`).

What holds of every tree that sprouts therefore holds of every tree of a pattern,
and growing some trees and then some more is growing all of them
(`growTrees_add`).
-/
import Camouflage.Proofs.Pattern.Checks

namespace Camouflage.Config

variable {α σ : Type} [Scalar α] [Compass α] [Sampling α] [RandomSource σ]

/-! ### One tree -/

/-- A tree sprouts from the stream `s`: its walk begins on the stream `t` and leaves `s'`. -/
structure Sprouts (config : Config α) (foreground : List Color) (symbols : Word) (s : σ)
    (tree : Tree α) (t s' : σ) : Prop where
  start : tree.start = (config.setOut s).1.1
  params : tree.params = (config.setOut s).1.2
  painted : ∃ s₁, config.thickness.pick (config.setOut s).2 = .ok (tree.thickness, s₁) ∧
    Random.choose foreground s₁ = some (tree.color, t)
  walked : ∃ walk, (config.turtle tree.params).draw symbols tree.start t = .ok (walk, s') ∧
    tree.events = walk.events ∧ tree.wraps = walk.wraps

variable {config : Config α} {foreground : List Color} {symbols : Word}

theorem exists_sprouts {tree : Tree α} {s s' : σ}
    (h : config.growTree foreground symbols s = .ok (tree, s')) :
    ∃ t, config.Sprouts foreground symbols s tree t s' := by
  obtain ⟨thickness, s₁, color, t, walk, hpick, hchoose, hdraw, rfl⟩ := growTree_eq_ok_iff.1 h
  exact ⟨t, rfl, rfl, ⟨s₁, hpick, hchoose⟩, walk, hdraw, rfl, rfl⟩

/-- A tree starts with the pen down. -/
theorem Sprouts.penDown {tree : Tree α} {s t s' : σ}
    (h : config.Sprouts foreground symbols s tree t s') : tree.start.penDown = true := by
  rw [h.start]
  rfl

/-! ### All trees -/

/-- Trees grow one after the other, from the stream `s` to the stream `s'`.  Each is listed with the
stream its walk begins on. -/
inductive Grows (config : Config α) (foreground : List Color) (symbols : Word) :
    σ → List (Tree α × σ) → σ → Prop
  | nil {s : σ} : Grows config foreground symbols s [] s
  | cons {s t s₁ s₂ : σ} {tree : Tree α} {grown : List (Tree α × σ)}
      (first : config.Sprouts foreground symbols s tree t s₁)
      (rest : Grows config foreground symbols s₁ grown s₂) :
      Grows config foreground symbols s ((tree, t) :: grown) s₂

/-- Every tree among them has sprouted. -/
theorem Grows.sprouts {grown : List (Tree α × σ)} {s s' : σ}
    (h : config.Grows foreground symbols s grown s') :
    ∀ g ∈ grown, ∃ s₁ s₂, config.Sprouts foreground symbols s₁ g.1 g.2 s₂ := by
  induction h with
  | nil =>
    intro g hg
    cases hg
  | cons first _ ih =>
    intro g hg
    rcases List.mem_cons.1 hg with rfl | hg
    · exact ⟨_, _, first⟩
    · exact ih g hg

theorem exists_grows {n : Nat} {trees result : Array (Tree α)} {s s' : σ}
    (h : config.growTrees foreground symbols n trees s = .ok (result, s')) :
    ∃ grown, config.Grows foreground symbols s grown s' ∧ grown.length = n ∧
      result.toList = trees.toList ++ grown.map Prod.fst := by
  induction n generalizing trees s with
  | zero =>
    cases h
    exact ⟨[], .nil, rfl, (List.append_nil _).symm⟩
  | succ n ih =>
    rw [growTrees_succ] at h
    obtain ⟨⟨tree, s₁⟩, htree, h⟩ := Outcome.bind_eq_ok_iff.1 h
    obtain ⟨t, hsprouts⟩ := exists_sprouts htree
    obtain ⟨grown, hgrows, hlength, hresult⟩ := ih h
    refine ⟨(tree, t) :: grown, .cons hsprouts hgrows, congrArg (· + 1) hlength, ?_⟩
    rw [hresult, Array.toList_push, List.append_assoc]
    rfl

/-- Some trees and then some more are all of them. -/
theorem growTrees_add (n k : Nat) (trees : Array (Tree α)) (s : σ) :
    config.growTrees foreground symbols (n + k) trees s =
      config.growTrees foreground symbols n trees s >>= fun p =>
        config.growTrees foreground symbols k p.1 p.2 := by
  induction n generalizing trees s with
  | zero =>
    rw [Nat.zero_add]
    rfl
  | succ n ih =>
    rw [Nat.succ_add, growTrees_succ, growTrees_succ]
    cases config.growTree foreground symbols s with
    | error fault => rfl
    | ok p => exact ih (trees.push p.1) p.2

/-! ### Patterns -/

/-- What a pattern has come from: the checks are passed with some rules, colors are selected on the
stream `s`, and then as many trees grow as there should be. -/
structure Grown (config : Config α) (s : σ) (pattern : Pattern α) (rules : RuleSet)
    (grown : List (Tree α × σ)) : Prop where
  passes : config.Passes rules
  trees : pattern.trees.toList = grown.map Prod.fst
  count : grown.length = config.treeCount.toNat
  grows : ∃ s₁ s₂,
    selectColors config.palette config.colorCount.toNat s
      = .ok (⟨pattern.background, pattern.foreground⟩, s₁) ∧
    config.Grows pattern.foreground (config.lastGeneration rules) s₁ grown s₂

/-- Of a configuration with a pattern there is nothing to complain about. -/
theorem exists_passes {s : σ} {pattern : Pattern α} (h : config.generateFrom s = .ok pattern) :
    ∃ rules, config.Passes rules := by
  rcases config.passes_or_firstFault with hpasses | ⟨fault, hfault⟩
  · exact hpasses
  · rw [hfault.generateFrom s] at h
    cases h

/-- **Patterns.**  Every pattern has come about in this way. -/
theorem exists_grown {s : σ} {pattern : Pattern α} (h : config.generateFrom s = .ok pattern) :
    ∃ rules grown, config.Grown s pattern rules grown := by
  obtain ⟨rules, hpasses⟩ := exists_passes h
  obtain ⟨-, symbols, hsymbols, colors, s₁, trees, s₂, hcolors, hgrow, rfl⟩ :=
    generateFrom_eq_ok_iff.1 h
  rw [hpasses.prepareSymbols] at hsymbols
  cases hsymbols
  obtain ⟨grown, hgrows, hlength, htrees⟩ := exists_grows hgrow
  exact ⟨rules, grown, hpasses, htrees, hlength, s₁, s₂, hcolors, hgrows⟩

namespace Grown

variable {s : σ} {pattern : Pattern α} {rules : RuleSet} {grown : List (Tree α × σ)}

/-- Every tree of the pattern has sprouted. -/
theorem sprouts (h : config.Grown s pattern rules grown) : ∀ g ∈ grown, ∃ s₁ s₂,
    config.Sprouts pattern.foreground (config.lastGeneration rules) s₁ g.1 g.2 s₂ := by
  obtain ⟨_, _, -, hgrows⟩ := h.grows
  exact hgrows.sprouts

theorem exists_of_mem (h : config.Grown s pattern rules grown) {tree : Tree α}
    (htree : tree ∈ pattern.trees) : ∃ s₁ t s₂ : σ,
    config.Sprouts pattern.foreground (config.lastGeneration rules) s₁ tree t s₂ := by
  rw [← Array.mem_toList_iff, h.trees] at htree
  obtain ⟨g, hg, rfl⟩ := List.mem_map.1 htree
  obtain ⟨s₁, s₂, hsprouts⟩ := h.sprouts g hg
  exact ⟨s₁, g.2, s₂, hsprouts⟩

end Grown

/-! ### A pattern with branches and wraps -/

/-- Three trees with a branch and with steps longer than the canvas. -/
def hedge : Config Float :=
  { (Config.standard : Config Float) with
    treeCount := 3
    depth := 1
    start := ['X']
    rules := .table (Table.ofList [(['X'], "F[+F-F]F".toList)])
    length := Scalar.ofNat 700
    canvas := ⟨320, 200⟩
    wrap := .modulo }

/-- The rules of `hedge`. -/
def hedgeRules : RuleSet := Table.ofList [('X', "F[+F-F]F".toList)]

theorem hedge_passes : hedge.Passes hedgeRules where
  valid := by rfl
  loaded := by rfl
  within := by decide
  matched := checkBranches_eq_ok_iff.1 (by rfl)

end Camouflage.Config
