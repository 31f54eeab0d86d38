/-
Camouflage/Proofs/Pattern/Ranges.lean

The ranges numbers are drawn from.  A generation makes numbers from random words
in four ways only: the two coordinates of a start, the heading, and the jitter of
angle, length and turns (`Config.numberRanges`).  What a draw from any other range
would give makes no difference to the pattern (`generateFrom_alike`); and all four
have finite bounds and something to draw, for every configuration
(`drawable_of_mem_numberRanges`).

That a range can be drawn from is a statement about bounds, so it is one about
binary64.  That no other range is drawn from holds for every type of numbers.
-/
import Camouflage.Proofs.Number.Bounds
import Camouflage.Proofs.Pattern.Growing

namespace Camouflage

/-- A range a number is drawn from. -/
inductive NumberRange (α : Type)
  /-- both bounds included -/
  | closed (low high : α)
  /-- the upper bound left out -/
  | halfOpen (low high : α)

namespace NumberRange

variable {α : Type}

/-- Whether there is something to draw: the bounds are finite, and there is a number in between. -/
def Drawable [Scalar α] : NumberRange α → Prop
  | closed low high =>
    Scalar.isFinite low = true ∧ Scalar.isFinite high = true ∧ Scalar.atMost low high = true
  | halfOpen low high =>
    Scalar.isFinite low = true ∧ Scalar.isFinite high = true ∧ Scalar.less low high = true

/-- The range of jitter. -/
def jitter [Scalar α] [Sampling α] (deviation : α) : NumberRange α :=
  closed (-Sampling.halfWidth (Scalar.abs deviation)) (Sampling.halfWidth (Scalar.abs deviation))

/-- Whether two ways to make numbers from random words make the same ones in a range. -/
def DrawnAlike (first second : Sampling α) : NumberRange α → Prop
  | closed low high => first.between low high = second.between low high
  | halfOpen low high => first.upTo low high = second.upTo low high

end NumberRange

/-- Two ways to make numbers from random words that differ in some ranges, but not in these. -/
structure Sampling.AlikeOn {α : Type} (first second : Sampling α) (ranges : List (NumberRange α)) :
    Prop where
  halfWidth : first.halfWidth = second.halfWidth
  drawn : ∀ range ∈ ranges, range.DrawnAlike first second

namespace Config

variable {α σ : Type} [Scalar α] [Compass α] [RandomSource σ]

/-- The ranges the numbers of a tree are drawn from. -/
def numberRanges [Sampling α] (config : Config α) : List (NumberRange α) :=
  let canvas : Canvas α := config.canvas.area
  [.closed (-canvas.halfWidth) canvas.halfWidth, .closed (-canvas.halfHeight) canvas.halfHeight,
    .halfOpen (Scalar.ofNat 0) (Scalar.ofNat 360), .jitter config.deviation]

/-- The pattern when numbers are made from random words in a given way. -/
def generateWith (sampling : Sampling α) (config : Config α) (s : σ) : Outcome (Pattern α) :=
  config.generateFrom s

end Config

/-! ### Nothing else is drawn from -/

section Alike

variable {α σ : Type} [RandomSource σ] [Scalar α] {first second : Sampling α}

namespace Random

omit [Scalar α] in
theorem drawBetween_alike {low high : α}
    (h : (NumberRange.closed low high).DrawnAlike first second) (s : σ) :
    @drawBetween σ _ α first low high s = @drawBetween σ _ α second low high s := by
  have hbetween : first.between low high = second.between low high := h
  unfold drawBetween
  rw [hbetween]

theorem drawUpToWithin_alike {low high : α}
    (h : (NumberRange.halfOpen low high).DrawnAlike first second) (redraws : Nat) (s : σ) :
    @drawUpToWithin σ _ α _ first low high redraws s
      = @drawUpToWithin σ _ α _ second low high redraws s := by
  have hupTo : first.upTo low high = second.upTo low high := h
  induction redraws generalizing s with
  | zero => rfl
  | succ redraws ih =>
    unfold drawUpToWithin
    rw [hupTo]
    dsimp only
    rw [ih]

theorem jitter_alike {deviation : α} (hwidth : first.halfWidth = second.halfWidth)
    (h : (@NumberRange.jitter α _ second deviation).DrawnAlike first second) (s : σ) :
    @jitter σ _ α _ first deviation s = @jitter σ _ α _ second deviation s := by
  unfold jitter
  rw [hwidth]
  exact drawBetween_alike h s

end Random

namespace Config

variable {config : Config α}

/-- The range of jitter, of which angle, length and turns make use. -/
theorem jitter_drawnAlike (h : first.AlikeOn second (@numberRanges α _ second config)) :
    (@NumberRange.jitter α _ second config.deviation).DrawnAlike first second :=
  h.drawn _ (by simp [numberRanges])

theorem setOut_alike (h : first.AlikeOn second (@numberRanges α _ second config)) (s : σ) :
    @setOut α σ _ first _ config s = @setOut α σ _ second _ config s := by
  have hx := h.drawn (.closed (-config.canvas.area.halfWidth) config.canvas.area.halfWidth)
    (by simp [numberRanges])
  have hy := h.drawn (.closed (-config.canvas.area.halfHeight) config.canvas.area.halfHeight)
    (by simp [numberRanges])
  have hheading := h.drawn (.halfOpen (Scalar.ofNat 0) (Scalar.ofNat 360)) (by simp [numberRanges])
  unfold setOut Random.drawUpTo
  simp only [Random.drawBetween_alike hx, Random.drawBetween_alike hy,
    Random.drawUpToWithin_alike hheading, Random.jitter_alike h.halfWidth (jitter_drawnAlike h)]

end Config

variable [Compass α]

namespace Turtle

variable {turtle : Turtle α}

/-- A turn draws from the range of jitter, and no other command draws. -/
theorem step_alike (hwidth : first.halfWidth = second.halfWidth)
    (h : (@NumberRange.jitter α _ second turtle.params.deviation).DrawnAlike first second)
    (walk : Walk α) (command : Command) (s : σ) :
    @step α σ _ _ _ first turtle walk command s = @step α σ _ _ _ second turtle walk command s := by
  have hturn : @turnAmount α σ _ _ first turtle s = @turnAmount α σ _ _ second turtle s := by
    unfold turnAmount
    rw [Random.jitter_alike hwidth h]
  cases command with
  | forward => rfl
  | turnRight =>
    unfold step
    dsimp only
    rw [hturn]
  | turnLeft =>
    unfold step
    dsimp only
    rw [hturn]
  | branchOpen => rfl
  | branchClose => rfl

theorem run_alike (hwidth : first.halfWidth = second.halfWidth)
    (h : (@NumberRange.jitter α _ second turtle.params.deviation).DrawnAlike first second)
    (word : Word) (walk : Walk α) (s : σ) :
    @run α σ _ _ _ first turtle word walk s = @run α σ _ _ _ second turtle word walk s := by
  induction word generalizing walk s with
  | nil => rfl
  | cons symbol word ih =>
    unfold run
    simp only [step_alike hwidth h, ih]

end Turtle

namespace Config

variable {config : Config α}

theorem growTree_alike (h : first.AlikeOn second (@numberRanges α _ second config))
    (foreground : List Color) (symbols : Word) (s : σ) :
    @growTree α σ _ _ first _ config foreground symbols s
      = @growTree α σ _ _ second _ config foreground symbols s := by
  have hrun (params : DrawParams α) (hdeviation : params.deviation = config.deviation)
      (walk : Walk α) (s : σ) : @Turtle.run α σ _ _ _ first (config.turtle params) symbols walk s
        = @Turtle.run α σ _ _ _ second (config.turtle params) symbols walk s := by
    refine Turtle.run_alike h.halfWidth ?_ symbols walk s
    show (@NumberRange.jitter α _ second params.deviation).DrawnAlike first second
    rw [hdeviation]
    exact jitter_drawnAlike h
  rw [@growTree_eq α σ _ _ first, @growTree_eq α σ _ _ second, setOut_alike h]
  unfold Turtle.draw
  simp only [hrun (@setOut α σ _ second _ config s).1.2 rfl]

theorem growTrees_alike (h : first.AlikeOn second (@numberRanges α _ second config))
    (foreground : List Color) (symbols : Word) (n : Nat) (trees : Array (Tree α)) (s : σ) :
    @growTrees α σ _ _ first _ config foreground symbols n trees s
      = @growTrees α σ _ _ second _ config foreground symbols n trees s := by
  induction n generalizing trees s with
  | zero => rfl
  | succ n ih =>
    unfold growTrees
    simp only [growTree_alike h, ih]

/-- A pattern does not change with what is made of random words in other ranges. -/
theorem generateFrom_alike (h : first.AlikeOn second (@numberRanges α _ second config)) (s : σ) :
    @generateFrom α σ _ _ first _ config s = @generateFrom α σ _ _ second _ config s := by
  unfold generateFrom
  simp only [growTrees_alike h]

end Config

end Alike

/-! ### All of them can be drawn from -/

namespace Config

/-- A canvas has room on every side, if only for its middle. -/
theorem drawable_half {n : Nat} (hn : n < 2 ^ 53) :
    (NumberRange.closed (-Scalar.half (Scalar.ofNat n) : Float)
      (Scalar.half (Scalar.ofNat n))).Drawable := by
  obtain ⟨hlow, hhigh, hle⟩ := Binary64.range_of_finiteUpTo (Binary64.finiteUpTo_half hn)
  exact ⟨hlow, hhigh, decide_eq_true hle⟩

theorem drawable_jitter (deviation : Float) : (NumberRange.jitter deviation).Drawable := by
  obtain ⟨hlow, hhigh, hle⟩ :=
    Binary64.range_of_finiteUpTo (Binary64.finiteUpTo_halfWidth deviation)
  exact ⟨hlow, hhigh, decide_eq_true hle⟩

/-- Whatever the configuration: the ranges have finite bounds and are not empty. -/
theorem drawable_of_mem_numberRanges (config : Config Float) :
    ∀ range ∈ config.numberRanges, range.Drawable := by
  have hside (side : UInt32) : side.toNat < 2 ^ 53 := side.toNat_lt.trans (by decide)
  have hheading : (NumberRange.halfOpen (Scalar.ofNat 0) (Scalar.ofNat 360 : Float)).Drawable := by
    refine ⟨?_, ?_, ?_⟩
    · rfl
    · rfl
    · rfl
  intro range hrange
  rw [numberRanges, List.mem_cons, List.mem_cons, List.mem_cons, List.mem_singleton] at hrange
  rcases hrange with rfl | rfl | rfl | rfl
  · exact drawable_half (hside _)
  · exact drawable_half (hside _)
  · exact hheading
  · exact drawable_jitter _

end Config

end Camouflage
