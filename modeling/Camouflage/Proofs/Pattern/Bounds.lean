/-
Camouflage/Proofs/Pattern/Bounds.lean

The bounds a configuration sets to its trees.  Numbers are exact, and nothing is
known of the draws but that they stay in their ranges (`Sampling.StaysInRange`).

Jitter comes in on two levels: the angle of a tree is jittered once, and then again
on every turn of its walk.  Each of the two is within the deviation, so a turn may
be off the angle of the configuration by twice as much, and not by more.

A turn is named by its place in the word that is drawn: behind the beginning `front`
of this word, the turtle turns by the amount that comes behind those of all turns in
`front` (`Turtle.TurnsBehind`).  Every turn that a walk makes is one of these, and
all of them are made if the walk gets through (`Turtle.turnsBehind_of_draw`).
-/
import Camouflage.Proofs.Turtle.Heading
import Camouflage.Proofs.Pattern.Trees

namespace Camouflage

/-- Draws between two bounds stay between them, and jitter is never wider than asked for. -/
structure Sampling.StaysInRange {K : Type} [Zero K] [Preorder K] (sampling : Sampling K) :
    Prop where
  between : ∀ {low high : K}, low ≤ high → ∀ w, sampling.between low high w ∈ Set.Icc low high
  halfWidth : ∀ {d : K}, 0 ≤ d → sampling.halfWidth d ∈ Set.Icc 0 d

variable {K σ : Type} [Field K] [LinearOrder K] [FloorRing K] [ToString K]

/-! ### Single draws -/

section Draws

variable [IsStrictOrderedRing K] [RandomSource σ] [sampling : Sampling K]

omit [FloorRing K] [ToString K] [IsStrictOrderedRing K] in
theorem Random.drawBetween_mem (hdraws : sampling.StaysInRange) {low high : K} (h : low ≤ high)
    (s : σ) : (drawBetween low high s).1 ∈ Set.Icc low high :=
  hdraws.between h (RandomSource.next64 s).1

/-- Jitter is within the deviation. -/
theorem Random.abs_jitter_le (hdraws : sampling.StaysInRange) {deviation : K} (h : 0 ≤ deviation)
    (s : σ) : |(jitter deviation s).1| ≤ deviation := by
  have hwidth : Sampling.halfWidth |deviation| ∈ Set.Icc 0 |deviation| :=
    hdraws.halfWidth (abs_nonneg deviation)
  calc |(jitter deviation s).1|
      ≤ Sampling.halfWidth |deviation| :=
        abs_le.2 (drawBetween_mem hdraws (neg_le_self hwidth.1) s)
    _ ≤ |deviation| := hwidth.2
    _ = deviation := abs_of_nonneg h

/-- What has been jittered is off its base by no more than the deviation. -/
theorem Random.abs_jittered_sub_le (hdraws : sampling.StaysInRange) {deviation : K}
    (h : 0 ≤ deviation) (base : K) (s : σ) :
    |base + (jitter deviation s).1 - base| ≤ deviation := by
  rw [add_sub_cancel_left]
  exact Random.abs_jitter_le hdraws h s

/-- The amount of a turn is off the angle of the tree by no more than the deviation. -/
theorem Turtle.abs_amounts_sub_le (hdraws : sampling.StaysInRange) {turtle : Turtle K}
    (h : 0 ≤ turtle.params.deviation) (s : σ) (i : Nat) :
    |turtle.amounts s i - turtle.params.angle| ≤ turtle.params.deviation :=
  Random.abs_jittered_sub_le hdraws h turtle.params.angle (Random.skip i s)

end Draws

/-- A pen width is one of the range it is picked from. -/
theorem ThicknessRange.mem_of_pick [RandomSource σ] {range : ThicknessRange} {thickness : Nat}
    {s s' : σ} (h : range.pick s = .ok (thickness, s')) :
    thickness ∈ Set.Icc range.least.toNat range.greatest.toNat := by
  rw [pick] at h
  split at h
  · next hpos =>
    cases h
    have hbelow := (Random.drawBelow .short hpos s).1.isLt
    constructor
    · exact Nat.le_add_right _ _
    · show range.least.toNat + (Random.drawBelow .short hpos s).1.val ≤ _
      omega
  · cases h

/-! ### The turns of a walk -/

namespace Turtle

variable [Compass K] [Sampling K] [RandomSource σ]

/-- Behind the beginning `front` of a word, drawn from a pose and a stream on, the turtle turns: to
the right for `+`, to the left for `-`, and by the amount drawn behind those of all turns before. -/
def TurnsBehind (turtle : Turtle K) (pose : Pose K) (t : σ) (front : Word) (symbol : Char) : Prop :=
  ∃ walk s s', turtle.draw front pose t = .ok (walk, s) ∧
    turtle.draw (front ++ [symbol]) pose t = .ok ({ walk with
      pose := walk.pose.turned (signedTurn symbol (turtle.amounts t (turns front))) }, s')

/-- A walk that gets through its word makes all turns of the word. -/
theorem turnsBehind_of_draw {turtle : Turtle K} {pose : Pose K} {t s' : σ} {walk : Walk K}
    {front rest : Word} {symbol : Char} (hturn : symbol = '+' ∨ symbol = '-')
    (h : turtle.draw (front ++ symbol :: rest) pose t = .ok (walk, s')) :
    turtle.TurnsBehind pose t front symbol := by
  rw [draw, run_append] at h
  obtain ⟨⟨before, s⟩, hfront, -⟩ := Outcome.bind_eq_ok_iff.1 h
  have hamount : turtle.amounts t (turns front) = (turtle.turnAmount s).1 := by
    rw [amounts, ← turtle.stream_draw hfront]
  refine ⟨before, s, (turtle.turnAmount s).2, hfront, ?_⟩
  rw [draw, run_append, hamount]
  refine Outcome.bind_eq_ok_iff.2 ⟨(before, s), hfront, ?_⟩
  rcases hturn with rfl | rfl
  · exact turtle.run_cons_of_moves .turnRight []
  · exact turtle.run_cons_of_moves .turnLeft []

end Turtle

/-! ### Trees -/

/-- A tree within the bounds of its configuration, with the colors of its pattern.  Its walk draws
the word `symbols` and begins on the stream `t`. -/
structure Tree.Respects [Compass K] [Sampling K] [RandomSource σ] (tree : Tree K)
    (config : Config K) (colors : ColorSelection) (symbols : Word) (t : σ) : Prop where
  position : config.canvas.area.contains tree.start.position = true
  heading : tree.start.heading ∈ Set.Ico 0 360
  thickness : tree.thickness ∈
    Set.Icc config.thickness.least.toNat config.thickness.greatest.toNat
  foreground : tree.color ∈ colors.foreground
  background : tree.color ≠ colors.background
  angle : |tree.params.angle - config.angle| ≤ config.deviation
  length : |tree.params.length - config.length| ≤ config.deviation
  deviation : tree.params.deviation = config.deviation
  turns : ∀ front symbol rest, symbols = front ++ symbol :: rest → symbol = '+' ∨ symbol = '-' →
    (config.turtle tree.params).TurnsBehind tree.start t front symbol ∧
      |(config.turtle tree.params).amounts t (turns front) - config.angle| ≤ 2 * config.deviation

namespace Config

variable {config : Config K}

/-- A deviation below zero is refused. -/
theorem deviation_nonneg_of_validate (h : config.validate = .ok ()) : 0 ≤ config.deviation := by
  rw [validate] at h
  dsimp only at h
  split at h
  · cases h
  obtain ⟨_, -, h⟩ := Outcome.bind_eq_ok_iff.1 h
  split at h
  · cases h
  split at h
  · cases h
  obtain ⟨_, -, h⟩ := Outcome.bind_eq_ok_iff.1 h
  obtain ⟨_, -, h⟩ := Outcome.bind_eq_ok_iff.1 h
  obtain ⟨_, -, h⟩ := Outcome.bind_eq_ok_iff.1 h
  split at h
  · cases h
  next hdeviation =>
  have hless : ¬ config.deviation < ((0 : ℕ) : K) := fun hlt => hdeviation (decide_eq_true hlt)
  rwa [Nat.cast_zero, not_lt] at hless

variable [IsStrictOrderedRing K] [sampling : Sampling K] [RandomSource σ]

/-- A tree sets out on the canvas. -/
theorem contains_setOut (hdraws : sampling.StaysInRange) (s : σ) :
    config.canvas.area.contains (config.setOut s).1.1.position = true := by
  have hhalf (n : ℕ) : (0 : K) ≤ Scalar.half (Scalar.ofNat n) := by
    show (0 : K) ≤ (n : K) / 2
    positivity
  refine Canvas.contains_iff.2 ⟨abs_le.2 ?_, abs_le.2 ?_⟩
  · exact Random.drawBetween_mem hdraws (neg_le_self (hhalf _)) s
  · exact Random.drawBetween_mem hdraws (neg_le_self (hhalf _)) _

variable [Compass K]

/-- **One tree.**  A tree that sprouts is within the bounds. -/
theorem Sprouts.respects {background : Color} {foreground : List Color} {symbols : Word}
    {tree : Tree K} {s t s' : σ} (h : config.Sprouts foreground symbols s tree t s')
    (hdraws : sampling.StaysInRange) (hdeviation : 0 ≤ config.deviation)
    (hcolors : background ∉ foreground) :
    tree.Respects config ⟨background, foreground⟩ symbols t := by
  obtain ⟨s₁, hpick, hchoose⟩ := h.painted
  obtain ⟨walk, hwalk, -, -⟩ := h.walked
  have hforeground := Random.mem_of_choose hchoose
  have hparams := h.params
  have hangle : |tree.params.angle - config.angle| ≤ config.deviation := by
    rw [hparams]
    exact Random.abs_jittered_sub_le hdraws hdeviation config.angle _
  have hlength : |tree.params.length - config.length| ≤ config.deviation := by
    rw [hparams]
    exact Random.abs_jittered_sub_le hdraws hdeviation config.length _
  have htree : tree.params.deviation = config.deviation := by
    rw [hparams]
    rfl
  refine ⟨?_, ?_, ThicknessRange.mem_of_pick hpick, hforeground, ?_, hangle, hlength, htree, ?_⟩
  · rw [h.start]
    exact contains_setOut hdraws s
  · rw [h.start]
    exact normalizeHeading_mem _
  · intro (hcolor : tree.color = background)
    exact hcolors (hcolor ▸ hforeground)
  · rintro front symbol rest rfl hturn
    refine ⟨Turtle.turnsBehind_of_draw hturn hwalk, ?_⟩
    have hjitter : |(config.turtle tree.params).amounts t (turns front) - tree.params.angle|
        ≤ tree.params.deviation :=
      Turtle.abs_amounts_sub_le hdraws (hdeviation.trans_eq htree.symm) t (turns front)
    calc |(config.turtle tree.params).amounts t (turns front) - config.angle|
        ≤ |(config.turtle tree.params).amounts t (turns front) - tree.params.angle|
            + |tree.params.angle - config.angle| := abs_sub_le _ _ _
      _ ≤ config.deviation + config.deviation := add_le_add (hjitter.trans_eq htree) hangle
      _ = 2 * config.deviation := (two_mul _).symm

/-- **Every tree respects the configuration.**  On every stream on which there is a pattern: it has
as many foreground colors as asked for, and each of its trees, from its start to the last turn of
its walk, is within the bounds. -/
theorem respects_generateFrom (hdraws : sampling.StaysInRange) {s : σ} {pattern : Pattern K}
    (h : config.generateFrom s = .ok pattern) :
    pattern.foreground.length = config.colorCount.toNat ∧
    ∃ rules grown, config.Grown s pattern rules grown ∧
      ∀ g ∈ grown, g.1.Respects config ⟨pattern.background, pattern.foreground⟩
        (config.lastGeneration rules) g.2 := by
  obtain ⟨rules, grown, hgrown⟩ := exists_grown h
  obtain ⟨s₁, s₂, hcolors, hgrows⟩ := hgrown.grows
  obtain ⟨-, hbackground, -, hcount, -⟩ := selectColors_disjoint hcolors
  have hdeviation := deviation_nonneg_of_validate hgrown.passes.valid
  refine ⟨hcount, rules, grown, hgrown, fun g hg => ?_⟩
  obtain ⟨_, _, hsprouts⟩ := hgrows.sprouts g hg
  exact hsprouts.respects hdraws hdeviation hbackground

end Config

/-! ### Exact draws -/

namespace Exact

variable [IsStrictOrderedRing K]

omit [FloorRing K] [ToString K] in
theorem unitFraction_mem (w : UInt64) : (unitFraction w : K) ∈ Set.Icc 0 largestFraction := by
  have hword : (w >>> 12).toNat + 1 ≤ 2 ^ 52 := by
    have hlt := w.toNat_lt
    rw [UInt64.toNat_shiftRight, Nat.shiftRight_eq_div_pow]
    show w.toNat / 2 ^ 12 + 1 ≤ 2 ^ 52
    omega
  have hcount : ((w >>> 12).toNat : K) + 1 ≤ (2 ^ 52 : ℕ) := by exact_mod_cast hword
  have hpos : (0 : K) < (2 ^ 52 : ℕ) := by positivity
  rw [unitFraction, largestFraction]
  constructor
  · positivity
  · rw [div_le_iff₀ hpos, sub_mul, div_mul_cancel₀ _ hpos.ne']
    linarith

omit [FloorRing K] [ToString K] in
/-- Exact draws stay in their ranges: the largest fraction is taken to the upper bound. -/
theorem staysInRange : (inferInstance : Sampling K).StaysInRange where
  between {low high} h w := by
    have hlargest : (0 : K) < largestFraction := by
      rw [largestFraction]
      norm_num
    have hscale : (0 : K) ≤ (high - low) / largestFraction :=
      div_nonneg (sub_nonneg.2 h) hlargest.le
    obtain ⟨hnonneg, hle⟩ := unitFraction_mem (K := K) w
    show unitFraction w * ((high - low) / largestFraction) + low ∈ Set.Icc low high
    constructor
    · exact le_add_of_nonneg_left (mul_nonneg hnonneg hscale)
    · calc unitFraction w * ((high - low) / largestFraction) + low
          ≤ largestFraction * ((high - low) / largestFraction) + low :=
            add_le_add_left (mul_le_mul_of_nonneg_right hle hscale) low
        _ = high := by rw [mul_div_cancel₀ _ hlargest.ne', sub_add_cancel]
  halfWidth h := ⟨h, le_refl _⟩

end Exact

/-! ### A pattern with turns in a branch -/

namespace Config

open Exact

/-- A parameter is not refused up to the bound. -/
theorem checkParameter_eq_ok {name : String} {value : K} (h : |value| ≤ (largestParameter : ℕ)) :
    checkParameter name value = .ok () := by
  have hnot : Scalar.less (Scalar.ofNat largestParameter) (Scalar.abs value) = false :=
    decide_eq_false h.not_gt
  rw [checkParameter, hnot]
  rfl

/-- Three trees with a turn to either side, the one to the left in a branch. -/
noncomputable def sapling : Config ℝ :=
  { (Config.standard : Config ℝ) with
    treeCount := 3
    depth := 1
    start := ['X']
    rules := .table (Table.ofList [(['X'], "F[+F-F]F".toList)])
    wrap := .modulo }

theorem sapling_passes : sapling.Passes hedgeRules where
  valid := by
    have hparameter {name : String} {n : ℕ} (hn : n ≤ largestParameter) :
        checkParameter name (Scalar.ofNat n : ℝ) = .ok () := by
      refine checkParameter_eq_ok ?_
      rw [ofNat_eq, Nat.abs_cast]
      exact_mod_cast hn
    have hdeviation : Scalar.less (Scalar.ofNat 10 : ℝ) (Scalar.ofNat 0) = false := by
      refine decide_eq_false ?_
      norm_num [ofNat_eq]
    rw [validate]
    show (do
      checkParameter "angle" (Scalar.ofNat 25 : ℝ)
      checkParameter "length" (Scalar.ofNat 10 : ℝ)
      checkParameter "random_deviation" (Scalar.ofNat 10 : ℝ)
      if Scalar.less (Scalar.ofNat 10 : ℝ) (Scalar.ofNat 0) then
        .error (.config (.negativeDeviation (Scalar.numeral (Scalar.ofNat 10 : ℝ))))
      .ok () : Outcome Unit) = .ok ()
    rw [hparameter (by decide), hparameter (by decide), hparameter (by decide), hdeviation]
    rfl
  loaded := by rfl
  within := by decide
  matched := checkBranches_eq_ok_iff.1 (by rfl)

/-- The statement at `sapling`, and what it says of the turn to the left in its branch: it is the
second one, and at most 20 degrees off 25. -/
theorem respects_generateFrom_sapling : (inferInstance : Sampling ℝ).StaysInRange ∧
    ∃ pattern, sapling.generate = .ok pattern ∧ pattern.foreground.length = 5 ∧
      ∃ grown, sapling.Grown (Keystream.ofSeed sapling.seed) pattern hedgeRules grown ∧
        ∀ g ∈ grown, g.1.Respects sapling ⟨pattern.background, pattern.foreground⟩
            "F[+F-F]F".toList g.2 ∧
          |(sapling.turtle g.1.params).amounts g.2 1 - (Scalar.ofNat 25 : ℝ)|
            ≤ 2 * (Scalar.ofNat 10 : ℝ) := by
  obtain ⟨pattern, hpattern⟩ := sapling_passes.exists_pattern (Keystream.ofSeed sapling.seed)
  obtain ⟨hcount, rules, grown, hgrown, hrespects⟩ :=
    respects_generateFrom staysInRange hpattern
  have hrules : sapling.rules.load = .ok rules := hgrown.passes.loaded
  rw [sapling_passes.loaded] at hrules
  cases hrules
  have hword : sapling.lastGeneration hedgeRules = "F[+F-F]F".toList := by rfl
  rw [hword] at hrespects
  refine ⟨staysInRange, pattern, hpattern, hcount, grown, hgrown, fun g hg => ?_⟩
  exact ⟨hrespects g hg, ((hrespects g hg).turns "F[+F".toList '-' "F]F".toList rfl (Or.inr rfl)).2⟩

end Config

end Camouflage
