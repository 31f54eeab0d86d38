/-
Camouflage/Proofs/Pattern/Colors.lean

Colors do not depend on the geometry.  What shows of a tree without its walk is
its color, its pen width and the heading it starts with (`Tree.look`).  Two
configurations may differ in canvas, wrap mode, angle, length, deviation and
grammar: as long as their words have the same number of turns, every tree looks
the same in both.

The reason is that both are at the same place of the stream whenever a color is
drawn.  Positions and jitter take one word each whatever their range is, and a
walk takes one word for every turn; the only draws that take more words at times
are those of headings, pen widths and colors, and these are the same in both.
-/
import Camouflage.Number.Binary64
import Camouflage.Proofs.Pattern.Checks
import Camouflage.Proofs.Turtle.StreamUse

namespace Camouflage

variable {α σ : Type} [Scalar α] [Compass α] [Sampling α] [RandomSource σ]

/-- What shows of a tree without its walk. -/
def Tree.look (tree : Tree α) : Color × Nat × α := (tree.color, tree.thickness, tree.start.heading)

namespace Config

variable {config config' : Config α}

/-! ### One tree -/

omit [Compass α] in
/-- Two words are used up for the position, then the heading is drawn, and two more words are used
up for the jitter of angle and length. -/
theorem setOut_eq (config : Config α) (s : σ) :
    let heading := Random.drawUpTo (Scalar.ofNat 0 : α) (Scalar.ofNat 360) (Random.skip 2 s)
    (config.setOut s).1.1.heading = normalizeHeading heading.1 ∧
      (config.setOut s).2 = Random.skip 2 heading.2 := by
  rw [setOut]
  simp only [Random.stream_drawBetween, Random.stream_jitter, Random.skip_skip, Nat.reduceAdd,
    Pose.start, and_self]

/-- **One tree.**  From one stream two trees look alike and leave the stream at one place. -/
theorem look_growTree {foreground : List Color} {symbols symbols' : Word} {s s₁ s₁' : σ}
    {tree tree' : Tree α} (hthickness : config.thickness = config'.thickness)
    (hturns : turns symbols = turns symbols')
    (h : config.growTree foreground symbols s = .ok (tree, s₁))
    (h' : config'.growTree foreground symbols' s = .ok (tree', s₁')) :
    tree.look = tree'.look ∧ s₁ = s₁' := by
  obtain ⟨thickness, t, color, u, walk, hpick, hchoose, hdraw, rfl⟩ := growTree_eq_ok_iff.1 h
  obtain ⟨thickness', t', color', u', walk', hpick', hchoose', hdraw', rfl⟩ :=
    growTree_eq_ok_iff.1 h'
  obtain ⟨hheading, hstream⟩ := config.setOut_eq s
  obtain ⟨hheading', hstream'⟩ := config'.setOut_eq s
  -- the pen widths are drawn from one place of the stream
  rw [hthickness, hstream, ← hstream', hpick'] at hpick
  cases hpick
  -- and so are the colors
  rw [hchoose'] at hchoose
  cases hchoose
  constructor
  · rw [Tree.look, Tree.look, hheading, hheading']
  · rw [Turtle.stream_draw _ hdraw, Turtle.stream_draw _ hdraw', hturns]

/-! ### All trees -/

/-- **All trees.**  Trees that looked alike so far go on looking alike. -/
theorem look_growTrees {foreground : List Color} {symbols symbols' : Word}
    (hthickness : config.thickness = config'.thickness) (hturns : turns symbols = turns symbols')
    (n : Nat) {trees trees' result result' : Array (Tree α)} {s s₁ s₁' : σ}
    (hlook : trees.map Tree.look = trees'.map Tree.look)
    (h : config.growTrees foreground symbols n trees s = .ok (result, s₁))
    (h' : config'.growTrees foreground symbols' n trees' s = .ok (result', s₁')) :
    result.map Tree.look = result'.map Tree.look := by
  induction n generalizing trees trees' s with
  | zero =>
    cases h
    cases h'
    exact hlook
  | succ n ih =>
    rw [growTrees_succ] at h h'
    obtain ⟨⟨tree, t⟩, htree, h⟩ := Outcome.bind_eq_ok_iff.1 h
    obtain ⟨⟨tree', t'⟩, htree', h'⟩ := Outcome.bind_eq_ok_iff.1 h'
    obtain ⟨hnext, rfl⟩ := look_growTree hthickness hturns htree htree'
    refine ih ?_ h h'
    rw [Array.map_push, Array.map_push, hlook, hnext]

/-- **Geometry does not show in the colors.**  Two configurations with one seed, one palette and the
same numbers of colors, pen widths and trees give the same background, the same foreground and trees
that look alike, provided that there are patterns of both and that their words have equally many
turns. -/
theorem generate_looks_alike (config config' : Config α) (pattern pattern' : Pattern α)
    (symbols symbols' : Word) (hseed : config.seed = config'.seed)
    (hpalette : config.palette = config'.palette) (hcolors : config.colorCount = config'.colorCount)
    (hthickness : config.thickness = config'.thickness)
    (htrees : config.treeCount = config'.treeCount)
    (hsymbols : config.prepareSymbols = .ok symbols)
    (hsymbols' : config'.prepareSymbols = .ok symbols')
    (hturns : symbols.count '+' + symbols.count '-' = symbols'.count '+' + symbols'.count '-')
    (hpattern : config.generate = .ok pattern) (hpattern' : config'.generate = .ok pattern') :
    pattern.background = pattern'.background ∧ pattern.foreground = pattern'.foreground ∧
      pattern.trees.map Tree.look = pattern'.trees.map Tree.look := by
  rw [generate] at hpattern hpattern'
  obtain ⟨-, word, hword, colors, s, trees, t, hselect, hgrow, rfl⟩ :=
    generateFrom_eq_ok_iff.1 hpattern
  obtain ⟨-, word', hword', colors', s', trees', t', hselect', hgrow', rfl⟩ :=
    generateFrom_eq_ok_iff.1 hpattern'
  rw [hsymbols] at hword
  cases hword
  rw [hsymbols'] at hword'
  cases hword'
  rw [hseed, hpalette, hcolors, hselect'] at hselect
  cases hselect
  rw [htrees] at hgrow
  exact ⟨rfl, rfl, look_growTrees hthickness hturns _ rfl hgrow hgrow'⟩

/-! ### Two configurations with one turn -/

/-- A step, a turn and a step on a square canvas. -/
def plain : Config Float :=
  { (Config.standard : Config Float) with
    start := "F+F".toList
    rules := .table (Table.ofList [])
    depth := 0 }

/-- A turn in a branch and a step, on another canvas and with other angles and lengths. -/
def askew : Config Float :=
  { (Config.standard : Config Float) with
    start := "X".toList
    rules := .table (Table.ofList [(['X'], "[F-]F".toList)])
    depth := 1
    angle := Scalar.ofNat 90
    length := Scalar.ofNat 700
    deviation := Scalar.ofNat 0
    canvas := ⟨320, 200⟩
    wrap := .modulo }

theorem plain_passes : plain.Passes (Table.ofList []) where
  valid := by rfl
  loaded := by rfl
  within := by decide
  matched := checkBranches_eq_ok_iff.1 (by rfl)

theorem askew_passes : askew.Passes (Table.ofList [('X', "[F-]F".toList)]) where
  valid := by rfl
  loaded := by rfl
  within := by decide
  matched := checkBranches_eq_ok_iff.1 (by rfl)

/-- The statement at `plain` and `askew`, of both of which there is a pattern. -/
theorem generate_looks_alike_askew :
    ∃ pattern pattern', plain.generate = .ok pattern ∧ askew.generate = .ok pattern' ∧
      pattern.background = pattern'.background ∧ pattern.foreground = pattern'.foreground ∧
      pattern.trees.map Tree.look = pattern'.trees.map Tree.look := by
  obtain ⟨pattern, hpattern⟩ := plain_passes.exists_pattern (Keystream.ofSeed plain.seed)
  obtain ⟨pattern', hpattern'⟩ := askew_passes.exists_pattern (Keystream.ofSeed askew.seed)
  have hturns : (plain.lastGeneration (Table.ofList [])).count '+'
        + (plain.lastGeneration (Table.ofList [])).count '-'
      = (askew.lastGeneration (Table.ofList [('X', "[F-]F".toList)])).count '+'
        + (askew.lastGeneration (Table.ofList [('X', "[F-]F".toList)])).count '-' := by
    decide
  exact ⟨pattern, pattern', hpattern, hpattern', generate_looks_alike plain askew pattern pattern'
    _ _ rfl rfl rfl rfl rfl plain_passes.prepareSymbols askew_passes.prepareSymbols hturns hpattern
    hpattern'⟩

end Config

end Camouflage
