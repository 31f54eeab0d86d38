/-
Camouflage/Proofs/Pattern/Recoloring.lean

Recoloring a palette recolors the pattern and changes nothing else.  Let `f` give
different colors to the different colors of a palette.  Where there is a pattern,
there is one with the palette recolored by `f`, and it is the same pattern with `f`
applied to its background, to its foreground and to the color of every tree
(`generateFrom_recolor`).

The reason is that colors are drawn by their positions.  The checks look at how
many colors there are and whether two of them are equal, which `f` keeps; the
background is taken out of the palette by its position, the foreground is a sample
of positions, and a tree chooses a position of the foreground.
-/
import Camouflage.Proofs.Pattern.Trees
import Mathlib.Data.Set.Function

namespace Camouflage

variable {α σ : Type} [RandomSource σ]

/-! ### Recolored palettes -/

/-- The palette with every color replaced. -/
def Palette.recolor (f : Color → Color) (palette : Palette) : Palette := ⟨palette.colors.map f⟩

/-- The colors of a pattern with each of them replaced. -/
def ColorSelection.recolor (f : Color → Color) (colors : ColorSelection) : ColorSelection :=
  ⟨f colors.background, colors.foreground.map f⟩

variable {f : Color → Color}

namespace Palette

variable {palette : Palette}

theorem size_recolor : (palette.recolor f).size = palette.size := List.length_map f

theorem mostForeground_recolor : (palette.recolor f).mostForeground = palette.mostForeground := by
  rw [mostForeground, mostForeground, size_recolor]

/-- Colors that were different stay so, and a usable palette stays usable. -/
theorem validate_recolor (hinj : Set.InjOn f {c | c ∈ palette.colors})
    (h : palette.validate = .ok ()) : (palette.recolor f).validate = .ok () := by
  obtain ⟨hsize, hnodup⟩ := validate_eq_ok_iff.1 h
  refine validate_eq_ok_iff.2 ⟨size_recolor.symm ▸ hsize, ?_⟩
  exact hnodup.map_on fun c hc d hd heq => hinj hc hd heq

end Palette

/-- **Selections.**  From one stream the colors at the same positions are selected. -/
theorem selectColors_recolor {palette : Palette} (hinj : Set.InjOn f {c | c ∈ palette.colors})
    {count : Nat} {s s' : σ} {colors : ColorSelection}
    (h : selectColors palette count s = .ok (colors, s')) :
    selectColors (palette.recolor f) count s = .ok (colors.recolor f, s') := by
  obtain ⟨hvalid, hcount, hfull, i, s₁, hdraw, hbackground, hsample⟩ := selectColors_eq_ok_iff.1 h
  have hlength : (palette.recolor f).colors.length = palette.colors.length := List.length_map f
  refine selectColors_eq_ok_iff.2 ⟨Palette.validate_recolor hinj hvalid, ?_, hlength ▸ hfull,
    i.cast hlength.symm, s₁, ?_, ?_, ?_⟩
  · rwa [Palette.mostForeground_recolor]
  · rw [Random.drawBelow_of_eq hlength _ hfull, hdraw]
  · show f colors.background = (palette.colors.map f)[i.val]
    rw [List.getElem_map, hbackground]
    rfl
  · show Random.sample ((palette.colors.map f).eraseIdx i.val) count s₁ = _
    rw [List.eraseIdx_map, Random.sample_map, hsample]
    rfl

/-! ### Recolored patterns -/

/-- The tree in another color. -/
def Tree.recolor (f : Color → Color) (tree : Tree α) : Tree α := { tree with color := f tree.color }

/-- The pattern in other colors. -/
def Pattern.recolor (f : Color → Color) (pattern : Pattern α) : Pattern α :=
  ⟨f pattern.background, pattern.foreground.map f, pattern.trees.map (Tree.recolor f)⟩

/-- The configuration with another palette. -/
def Config.recolor (f : Color → Color) (config : Config α) : Config α :=
  { config with palette := config.palette.recolor f }

namespace Config

variable [Scalar α] {config : Config α}

/-! ### The checks -/

theorem validate_recolor (hinj : Set.InjOn f {c | c ∈ config.palette.colors})
    (h : config.validate = .ok ()) : (config.recolor f).validate = .ok () := by
  have hpalette := (supplied_of_validate h).palette
  have hrecolored : (config.recolor f).palette.validate = config.palette.validate := by
    rw [hpalette]
    exact Palette.validate_recolor hinj hpalette
  have hmost : (config.recolor f).palette.mostForeground = config.palette.mostForeground :=
    Palette.mostForeground_recolor
  rw [← h, validate, validate, hrecolored, hmost]
  rfl

/-! ### The trees -/

variable [Compass α] [Sampling α] {symbols : Word} {foreground : List Color} {s s' : σ}

/-- **One tree.**  Its color is chosen by position, and nothing else of it has to do with colors. -/
theorem growTree_recolor {tree : Tree α}
    (h : config.growTree foreground symbols s = .ok (tree, s')) :
    (config.recolor f).growTree (foreground.map f) symbols s = .ok (tree.recolor f, s') := by
  obtain ⟨thickness, s₁, color, s₂, walk, hpick, hchoose, hdraw, rfl⟩ := growTree_eq_ok_iff.1 h
  refine growTree_eq_ok_iff.2 ⟨thickness, s₁, f color, s₂, walk, hpick, ?_, hdraw, rfl⟩
  rw [Random.choose_map, hchoose]
  rfl

/-- **All trees.**  Trees that are recolored so far go on growing recolored. -/
theorem growTrees_recolor {n : Nat} {trees result : Array (Tree α)}
    (h : config.growTrees foreground symbols n trees s = .ok (result, s')) :
    (config.recolor f).growTrees (foreground.map f) symbols n (trees.map (Tree.recolor f)) s
      = .ok (result.map (Tree.recolor f), s') := by
  induction n generalizing trees s with
  | zero =>
    cases h
    rfl
  | succ n ih =>
    rw [growTrees_succ] at h ⊢
    obtain ⟨⟨tree, s₁⟩, htree, h⟩ := Outcome.bind_eq_ok_iff.1 h
    refine Outcome.bind_eq_ok_iff.2 ⟨(tree.recolor f, s₁), growTree_recolor htree, ?_⟩
    have hrest := ih h
    rwa [Array.map_push] at hrest

/-- **Recolored patterns.**  On every stream, that of every seed among them: where there is a pattern
and `f` keeps the colors of the palette apart, the recolored palette gives the recolored pattern. -/
theorem generateFrom_recolor (config : Config α) (f : Color → Color)
    (hinj : Set.InjOn f {c | c ∈ config.palette.colors}) {s : σ} {pattern : Pattern α}
    (h : config.generateFrom s = .ok pattern) :
    (config.recolor f).generateFrom s = .ok (pattern.recolor f) := by
  obtain ⟨hvalid, symbols, hsymbols, colors, s₁, trees, s₂, hcolors, htrees, rfl⟩ :=
    generateFrom_eq_ok_iff.1 h
  have hrecolored := growTrees_recolor (f := f) htrees
  rw [Array.map_empty] at hrecolored
  exact generateFrom_eq_ok_iff.2 ⟨validate_recolor hinj hvalid, symbols, hsymbols,
    colors.recolor f, s₁, trees.map (Tree.recolor f), s₂, selectColors_recolor hinj hcolors,
    hrecolored, rfl⟩

/-- The grey that is as bright as a color is red. -/
def redness (c : Color) : Color := ⟨c.red, c.red, c.red⟩

/-- The statement at a hedge in greys.  No two colors of its palette are equally red, though other
colors are. -/
theorem generateFrom_recolor_redness :
    Set.InjOn redness {c | c ∈ hedge.palette.colors} ∧ ∃ pattern, hedge.generate = .ok pattern ∧
      (hedge.recolor redness).generate = .ok (pattern.recolor redness) := by
  have hinj : Set.InjOn redness {c | c ∈ hedge.palette.colors} := by
    have hcolors : ∀ c ∈ Palette.urban.colors, ∀ d ∈ Palette.urban.colors,
        redness c = redness d → c = d := by decide
    intro c hc d hd
    exact hcolors c hc d hd
  obtain ⟨pattern, hpattern⟩ := hedge_passes.exists_pattern (Keystream.ofSeed hedge.seed)
  exact ⟨hinj, pattern, hpattern, generateFrom_recolor hedge redness hinj hpattern⟩

end Config

end Camouflage
