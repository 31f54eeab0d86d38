/-
Camouflage/Pattern/Generation.lean

From a configuration to a pattern.  The symbols are prepared first: rules are
loaded, the length of the expansion is predicted and compared with the limit,
the word is expanded and its brackets are checked.  Then the colors are drawn,
and then the trees one after the other, all from one stream.

For each tree the stream gives, in this order: start position, heading, angle,
length, thickness, color, and then what the turns of its walk need.  Generation
is all or nothing: a fault anywhere leaves no pattern.
-/
import Camouflage.Grammar.Branches
import Camouflage.Grammar.Expansion
import Camouflage.Pattern.Config
import Camouflage.Random.ChaCha

namespace Camouflage

/-- One drawn tree. -/
structure Tree (α : Type) where
  color : Color
  thickness : Nat
  start : Pose α
  params : DrawParams α
  events : Array (PathEvent α)
  wraps : Nat
deriving DecidableEq

/-- A finished pattern. -/
structure Pattern (α : Type) where
  background : Color
  foreground : List Color
  trees : Array (Tree α)
deriving DecidableEq

/-- The word all trees of a pattern are drawn from. -/
def Config.prepareSymbols {α : Type} (config : Config α) : Outcome Word := do
  let rules ← config.rules.load
  let predicted := expandedLength config.start rules config.depth.toNat
  if config.symbolLimit.toNat < predicted then
    .error (.config (.tooManySymbols config.depth.toNat predicted config.symbolLimit.toNat))
  let symbols := expand config.start rules config.depth.toNat
  checkBranches symbols
  return symbols

section Drawing

variable {α σ : Type} [Scalar α] [Compass α] [Sampling α] [RandomSource σ]

/-- Draws a pen width. -/
def ThicknessRange.pick (range : ThicknessRange) (s : σ) : Outcome (Nat × σ) :=
  if h : 0 < range.greatest.toNat + 1 - range.least.toNat then
    let (k, s) := Random.drawBelow .short h s
    .ok (range.least.toNat + k, s)
  else .error (.config .emptyRange)

/-- Draws one tree. -/
def Config.growTree (config : Config α) (foreground : List Color) (symbols : Word) (s : σ) :
    Outcome (Tree α × σ) := do
  let canvas : Canvas α := config.canvas.area
  let (x, s) := Random.drawBetween (-canvas.halfWidth) canvas.halfWidth s
  let (y, s) := Random.drawBetween (-canvas.halfHeight) canvas.halfHeight s
  let (heading, s) := Random.drawUpTo (Scalar.ofNat 0 : α) (Scalar.ofNat 360) s
  let (angleJitter, s) := Random.jitter config.deviation s
  let (lengthJitter, s) := Random.jitter config.deviation s
  let params : DrawParams α :=
    ⟨config.angle + angleJitter, config.length + lengthJitter, config.deviation⟩
  let (thickness, s) ← config.thickness.pick s
  match Random.choose foreground s with
  | none => .error (.config .noForeground)
  | some (color, s) =>
    let start := Pose.start ⟨x, y⟩ heading
    let turtle : Turtle α := ⟨params, canvas, config.wrap⟩
    let (walk, s) ← turtle.draw symbols start s
    .ok (⟨color, thickness, start, params, walk.events, walk.wraps⟩, s)

/-- Draws some more trees. -/
def Config.growTrees (config : Config α) (foreground : List Color) (symbols : Word) :
    Nat → Array (Tree α) → σ → Outcome (Array (Tree α) × σ)
  | 0, trees, s => .ok (trees, s)
  | n + 1, trees, s =>
    match config.growTree foreground symbols s with
    | .error fault => .error fault
    | .ok (tree, s) => growTrees config foreground symbols n (trees.push tree) s

/-- The pattern of a configuration, drawn from a given stream.  Memory is taken as unlimited: no
number of trees is too large to have room for. -/
def Config.generateFrom (config : Config α) (s : σ) : Outcome (Pattern α) := do
  config.validate
  let symbols ← config.prepareSymbols
  let (colors, s) ← selectColors config.palette config.colorCount.toNat s
  let (trees, _) ← config.growTrees colors.foreground symbols config.treeCount.toNat #[] s
  return ⟨colors.background, colors.foreground, trees⟩

/-- The pattern of a configuration, drawn from the stream of its seed. -/
def Config.generate (config : Config α) : Outcome (Pattern α) :=
  config.generateFrom (Keystream.ofSeed config.seed)

end Drawing

end Camouflage
