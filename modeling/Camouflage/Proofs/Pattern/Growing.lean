/-
Camouflage/Proofs/Pattern/Growing.lean

How a tree grows.  First its start and parameters are drawn (`Config.setOut`),
which cannot fail, then its pen width and its color, and then it is walked.

`growTree_eq_ok_iff` says when this gives a tree and which one, and
`generateFrom_eq_ok_iff` when all of it gives a pattern.  Everything about grown
trees is read off from these two.
-/
import Camouflage.Pattern.Generation
import Camouflage.Proofs.Grammar.Adding

namespace Camouflage.Config

variable {α σ : Type} [Scalar α] [Compass α] [Sampling α] [RandomSource σ]
variable {config : Config α} {foreground : List Color} {symbols : Word} {s s' : σ}

/-! ### One tree -/

/-- The start of a tree and its parameters, the first that is drawn for it. -/
def setOut (config : Config α) (s : σ) : (Pose α × DrawParams α) × σ :=
  let canvas : Canvas α := config.canvas.area
  let (x, s) := Random.drawBetween (-canvas.halfWidth) canvas.halfWidth s
  let (y, s) := Random.drawBetween (-canvas.halfHeight) canvas.halfHeight s
  let (heading, s) := Random.drawUpTo (Scalar.ofNat 0 : α) (Scalar.ofNat 360) s
  let (angleJitter, s) := Random.jitter config.deviation s
  let (lengthJitter, s) := Random.jitter config.deviation s
  ((Pose.start ⟨x, y⟩ heading,
    ⟨config.angle + angleJitter, config.length + lengthJitter, config.deviation⟩), s)

/-- The turtle that walks a tree. -/
def turtle (config : Config α) (params : DrawParams α) : Turtle α :=
  ⟨params, config.canvas.area, config.wrap⟩

theorem growTree_eq (config : Config α) (foreground : List Color) (symbols : Word) (s : σ) :
    config.growTree foreground symbols s =
      config.thickness.pick (config.setOut s).2 >>= fun p =>
        match Random.choose foreground p.2 with
        | none => .error (.config .noForeground)
        | some (color, s') =>
          (config.turtle (config.setOut s).1.2).draw symbols (config.setOut s).1.1 s' >>= fun q =>
            .ok (⟨color, p.1, (config.setOut s).1.1, (config.setOut s).1.2, q.1.events, q.1.wraps⟩,
              q.2) := by
  unfold growTree setOut turtle
  rfl

/-- What makes up a tree: a start and parameters, a pen width, a color and a walk, drawn in this
order from the stream. -/
theorem growTree_eq_ok_iff {tree : Tree α} :
    config.growTree foreground symbols s = .ok (tree, s') ↔
      ∃ thickness s₁ color s₂ walk,
        config.thickness.pick (config.setOut s).2 = .ok (thickness, s₁) ∧
        Random.choose foreground s₁ = some (color, s₂) ∧
        (config.turtle (config.setOut s).1.2).draw symbols (config.setOut s).1.1 s₂
          = .ok (walk, s') ∧
        tree = ⟨color, thickness, (config.setOut s).1.1, (config.setOut s).1.2, walk.events,
          walk.wraps⟩ := by
  rw [growTree_eq]
  constructor
  · intro h
    obtain ⟨⟨thickness, s₁⟩, hpick, h⟩ := Outcome.bind_eq_ok_iff.1 h
    cases hchoose : Random.choose foreground s₁ with
    | none =>
      rw [hchoose] at h
      cases h
    | some c =>
      rw [hchoose] at h
      obtain ⟨⟨walk, s₃⟩, hdraw, h⟩ := Outcome.bind_eq_ok_iff.1 h
      cases h
      exact ⟨thickness, s₁, c.1, c.2, walk, hpick, hchoose, hdraw, rfl⟩
  · rintro ⟨thickness, s₁, color, s₂, walk, hpick, hchoose, hdraw, rfl⟩
    refine Outcome.bind_eq_ok_iff.2 ⟨_, hpick, ?_⟩
    rw [hchoose]
    exact Outcome.bind_eq_ok_iff.2 ⟨_, hdraw, rfl⟩

/-! ### All trees -/

theorem growTrees_succ (n : Nat) (trees : Array (Tree α)) (s : σ) :
    config.growTrees foreground symbols (n + 1) trees s =
      config.growTree foreground symbols s >>= fun p =>
        config.growTrees foreground symbols n (trees.push p.1) p.2 := by
  rw [growTrees]
  cases config.growTree foreground symbols s <;> rfl

/-- A pattern: the numbers and the symbols are in order, and colors and trees can be drawn. -/
theorem generateFrom_eq_ok_iff {pattern : Pattern α} :
    config.generateFrom s = .ok pattern ↔
      config.validate = .ok () ∧ ∃ symbols, config.prepareSymbols = .ok symbols ∧
        ∃ colors s₁ trees s₂,
          selectColors config.palette config.colorCount.toNat s = .ok (colors, s₁) ∧
          config.growTrees colors.foreground symbols config.treeCount.toNat #[] s₁
            = .ok (trees, s₂) ∧
          pattern = ⟨colors.background, colors.foreground, trees⟩ := by
  rw [generateFrom]
  constructor
  · intro h
    obtain ⟨_, hvalid, h⟩ := Outcome.bind_eq_ok_iff.1 h
    obtain ⟨symbols, hsymbols, h⟩ := Outcome.bind_eq_ok_iff.1 h
    obtain ⟨⟨colors, s₁⟩, hcolors, h⟩ := Outcome.bind_eq_ok_iff.1 h
    obtain ⟨⟨trees, s₂⟩, htrees, h⟩ := Outcome.bind_eq_ok_iff.1 h
    cases h
    exact ⟨hvalid, symbols, hsymbols, colors, s₁, trees, s₂, hcolors, htrees, rfl⟩
  · rintro ⟨hvalid, symbols, hsymbols, colors, s₁, trees, s₂, hcolors, htrees, rfl⟩
    refine Outcome.bind_eq_ok_iff.2 ⟨(), hvalid, ?_⟩
    refine Outcome.bind_eq_ok_iff.2 ⟨symbols, hsymbols, ?_⟩
    refine Outcome.bind_eq_ok_iff.2 ⟨(colors, s₁), hcolors, ?_⟩
    exact Outcome.bind_eq_ok_iff.2 ⟨(trees, s₂), htrees, rfl⟩

end Camouflage.Config
