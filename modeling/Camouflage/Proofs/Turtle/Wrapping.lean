/-
Camouflage/Proofs/Turtle/Wrapping.lean

What the wrap modes make of a coordinate, in exact numbers.  A coordinate on the
canvas stays where it is, and one beyond an edge is moved by canvas extents, in
both modes; they differ in how far out they still reach the canvas
(`WrapMode.AxisLaws`).

A single fold moves by one extent, so it reaches the canvas from up to one extent
beyond the edges, and gets from three half extents exactly onto an edge.  The
remainder reaches it from everywhere.  It lies in an interval that holds one
coordinate of each class modulo the extent (`eq_of_modEq`), which leaves out the
upper edge.  That is why the modes agree wherever a single fold lands in that
interval, and why they part at three half extents above, but not below.
-/
import Mathlib.Algebra.Order.ToIntervalMod
import Mathlib.Tactic.Linarith
import Mathlib.Tactic.NormNum
import Camouflage.Proofs.Turtle.Torus

namespace Camouflage.WrapMode

variable {K : Type} [Field K] [LinearOrder K] [FloorRing K] [ToString K] {half v : K}

/-- What the modes make of the coordinate `v` on an axis that reaches as far as `half` to both
sides. -/
structure AxisLaws (half v : K) (result : WrapMode → K) : Prop where
  /-- a coordinate stays where it is exactly if it is on the canvas -/
  unchanged_iff : ∀ mode, result mode = v ↔ |v| ≤ half
  /-- a coordinate is moved by whole extents -/
  extents : ∀ mode, ∃ k : ℤ, result mode = v + k * (2 * half)
  /-- the remainder is on the canvas -/
  modulo_inside : |result .modulo| ≤ half
  /-- nothing else is moved onto the upper edge -/
  modulo_edge : result .modulo = half → v = half
  /-- a single fold reaches the canvas from up to three half extents -/
  singleFold_inside_iff : |result .singleFold| ≤ half ↔ |v| ≤ 3 * half
  /-- this is also how far the modes agree, except for the upper end -/
  agree_iff : result .singleFold = result .modulo ↔ -(3 * half) ≤ v ∧ v < 3 * half
  /-- where they get onto opposite edges -/
  opposite_edges : v = 3 * half → result .singleFold = half ∧ result .modulo = -half

/-- A coordinate is moved by whole extents. -/
theorem exists_wrapAxis_eq (mode : WrapMode) (v half : K) :
    ∃ k : ℤ, mode.wrapAxis v half = v + k * (2 * half) := by
  obtain ⟨k, hk⟩ := AddCommGroup.modEq_iff_zsmul'.1 (mode.wrapAxis_modEq v half).symm
  refine ⟨k, ?_⟩
  rw [← zsmul_eq_mul, ← hk]
  ring

variable [IsStrictOrderedRing K]

/-! ### Inside and outside -/

/-- On the canvas a coordinate stays where it is. -/
theorem wrapAxis_inside (mode : WrapMode) (h : |v| ≤ half) : mode.wrapAxis v half = v := by
  obtain ⟨hlow, hhigh⟩ := abs_le.1 h
  cases mode with
  | singleFold =>
    have hupper : Scalar.less half v = false := decide_eq_false hhigh.not_gt
    have hlower : Scalar.less v (-half) = false := decide_eq_false hlow.not_gt
    simp [wrapAxis, hupper, hlower]
  | modulo =>
    have hinside : Scalar.atMost (Scalar.abs v) half = true := decide_eq_true h
    simp [wrapAxis, hinside]

/-- Beyond an edge a single fold goes one extent back. -/
theorem singleFold_outside (hpos : 0 < half) (h : half < |v|) :
    half < v ∧ singleFold.wrapAxis v half = v - 2 * half ∨
      v < -half ∧ singleFold.wrapAxis v half = v + 2 * half := by
  rcases lt_abs.1 h with habove | hbelow
  · have hupper : Scalar.less half v = true := decide_eq_true habove
    refine Or.inl ⟨habove, ?_⟩
    simp only [wrapAxis, hupper, if_true]
    ring
  · have hlow : v < -half := lt_neg_of_lt_neg hbelow
    have hupper : Scalar.less half v = false := decide_eq_false (by linarith)
    have hlower : Scalar.less v (-half) = true := decide_eq_true hlow
    refine Or.inr ⟨hlow, ?_⟩
    simp only [wrapAxis, hupper, hlower, if_true, Bool.false_eq_true, if_false]
    ring

/-- Beyond the edges the remainder goes to the canvas without its upper edge. -/
theorem modulo_outside (hpos : 0 < half) (h : half < |v|) :
    modulo.wrapAxis v half ∈ Set.Ico (-half) half := by
  have houtside : Scalar.atMost (Scalar.abs v) half = false := decide_eq_false h.not_ge
  have htwo : (Scalar.ofNat 2 : K) = 2 := by rw [Exact.ofNat_eq, Nat.cast_ofNat]
  have hextent : 0 < 2 * half := by linarith
  have hnonneg := Exact.remainder_nonneg (v + half) hextent
  have hlt := Exact.remainder_lt (v + half) hextent
  simp only [wrapAxis, houtside, htwo, Bool.false_eq_true, if_false]
  constructor
  · linarith
  · linarith

/-- The canvas without its upper edge has one coordinate of each class. -/
theorem eq_of_modEq (hpos : 0 < half) {x y : K} (hx : x ∈ Set.Ico (-half) half)
    (hy : y ∈ Set.Ico (-half) half) (h : x ≡ y [PMOD 2 * half]) : x = y := by
  have hextent : 0 < 2 * half := by linarith
  have hupper : -half + 2 * half = half := by ring
  have hself {z : K} (hz : z ∈ Set.Ico (-half) half) : toIcoMod hextent (-half) z = z := by
    rw [toIcoMod_eq_self, hupper]
    exact hz
  rw [← hself hx, ← hself hy]
  exact (toIcoMod_inj hextent).2 h

/-- So the remainder is whatever lies there of its class. -/
theorem modulo_eq_of_modEq (hpos : 0 < half) (houtside : half < |v|) {x : K}
    (hx : x ∈ Set.Ico (-half) half) (h : x ≡ v [PMOD 2 * half]) : modulo.wrapAxis v half = x :=
  eq_of_modEq hpos (modulo_outside hpos houtside) hx ((modulo.wrapAxis_modEq v half).trans h.symm)

/-! ### The laws one by one -/

theorem wrapAxis_eq_self_iff (hpos : 0 < half) (mode : WrapMode) (v : K) :
    mode.wrapAxis v half = v ↔ |v| ≤ half := by
  refine ⟨fun heq => ?_, wrapAxis_inside mode⟩
  by_contra hnot
  have houtside : half < |v| := lt_of_not_ge hnot
  cases mode with
  | singleFold =>
    -- an extent is not zero
    rcases singleFold_outside hpos houtside with ⟨-, hfold⟩ | ⟨-, hfold⟩
    · linarith
    · linarith
  | modulo =>
    -- what is moved to the canvas was not there
    obtain ⟨hlow, hhigh⟩ := modulo_outside hpos houtside
    rw [heq] at hlow hhigh
    exact hnot (abs_le.2 ⟨hlow, hhigh.le⟩)

theorem abs_modulo_le (hpos : 0 < half) (v : K) : |modulo.wrapAxis v half| ≤ half := by
  rcases le_or_gt |v| half with hinside | houtside
  · rwa [wrapAxis_inside modulo hinside]
  · obtain ⟨hlow, hhigh⟩ := modulo_outside hpos houtside
    exact abs_le.2 ⟨hlow, hhigh.le⟩

theorem eq_half_of_modulo_eq (hpos : 0 < half) (h : modulo.wrapAxis v half = half) : v = half := by
  rcases le_or_gt |v| half with hinside | houtside
  · rwa [wrapAxis_inside modulo hinside] at h
  · exact absurd h (modulo_outside hpos houtside).2.ne

theorem abs_singleFold_le_iff (hpos : 0 < half) (v : K) :
    |singleFold.wrapAxis v half| ≤ half ↔ |v| ≤ 3 * half := by
  rcases le_or_gt |v| half with hinside | houtside
  · rw [wrapAxis_inside singleFold hinside]
    exact iff_of_true hinside (by linarith)
  · rw [abs_le, abs_le]
    rcases singleFold_outside hpos houtside with ⟨habove, hfold⟩ | ⟨hbelow, hfold⟩
    · rw [hfold]
      constructor <;> rintro ⟨hlow, hhigh⟩ <;> constructor <;> linarith
    · rw [hfold]
      constructor <;> rintro ⟨hlow, hhigh⟩ <;> constructor <;> linarith

/-- A single fold goes to the canvas without its upper edge from three half extents, the upper end
left out here as well. -/
theorem singleFold_mem_iff (hpos : 0 < half) (houtside : half < |v|) :
    singleFold.wrapAxis v half ∈ Set.Ico (-half) half ↔ -(3 * half) ≤ v ∧ v < 3 * half := by
  rw [Set.mem_Ico]
  rcases singleFold_outside hpos houtside with ⟨habove, hfold⟩ | ⟨hbelow, hfold⟩
  · rw [hfold]
    constructor <;> rintro ⟨hlow, hhigh⟩ <;> constructor <;> linarith
  · rw [hfold]
    constructor <;> rintro ⟨hlow, hhigh⟩ <;> constructor <;> linarith

theorem singleFold_eq_modulo_iff (hpos : 0 < half) (v : K) :
    singleFold.wrapAxis v half = modulo.wrapAxis v half ↔ -(3 * half) ≤ v ∧ v < 3 * half := by
  rcases le_or_gt |v| half with hinside | houtside
  · rw [wrapAxis_inside singleFold hinside, wrapAxis_inside modulo hinside]
    obtain ⟨hlow, hhigh⟩ := abs_le.1 hinside
    exact iff_of_true rfl ⟨by linarith, by linarith⟩
  · rw [← singleFold_mem_iff hpos houtside]
    constructor
    · intro hagree
      rw [hagree]
      exact modulo_outside hpos houtside
    · intro hmem
      exact (modulo_eq_of_modEq hpos houtside hmem (singleFold.wrapAxis_modEq v half)).symm

/-- From three half extents above, a single fold goes to the upper edge and the remainder, two
extents away from it, to the lower one. -/
theorem wrapAxis_three_half (hpos : 0 < half) :
    singleFold.wrapAxis (3 * half) half = half ∧ modulo.wrapAxis (3 * half) half = -half := by
  have houtside : half < |3 * half| := lt_abs.2 (Or.inl (by linarith))
  constructor
  · rcases singleFold_outside hpos houtside with ⟨-, hfold⟩ | ⟨hbelow, -⟩
    · rw [hfold]
      ring
    · linarith
  · refine modulo_eq_of_modEq hpos houtside ⟨le_rfl, by linarith⟩ ?_
    refine AddCommGroup.modEq_iff_zsmul'.2 ⟨2, ?_⟩
    rw [zsmul_eq_mul, Int.cast_ofNat]
    ring

/-! ### The laws together -/

/-- **One axis.**  The laws hold of every coordinate. -/
theorem wrapAxis_laws (hpos : 0 < half) (v : K) :
    AxisLaws half v fun mode => mode.wrapAxis v half where
  unchanged_iff mode := wrapAxis_eq_self_iff hpos mode v
  extents mode := exists_wrapAxis_eq mode v half
  modulo_inside := abs_modulo_le hpos v
  modulo_edge := eq_half_of_modulo_eq hpos
  singleFold_inside_iff := abs_singleFold_le_iff hpos v
  agree_iff := singleFold_eq_modulo_iff hpos v
  opposite_edges := by
    rintro rfl
    exact wrapAxis_three_half hpos

/-- **Both axes.**  A position is wrapped in each of its coordinates by itself, and the laws of the
two modes hold of both coordinates, on every canvas that has an extent in both directions. -/
theorem wrap_laws (canvas : Canvas K) (hwidth : 0 < canvas.halfWidth)
    (hheight : 0 < canvas.halfHeight) (p : Point K) :
    (∀ mode : WrapMode, mode.wrap p canvas
      = ⟨mode.wrapAxis p.x canvas.halfWidth, mode.wrapAxis p.y canvas.halfHeight⟩) ∧
    (AxisLaws canvas.halfWidth p.x fun mode => mode.wrapAxis p.x canvas.halfWidth) ∧
    AxisLaws canvas.halfHeight p.y fun mode => mode.wrapAxis p.y canvas.halfHeight :=
  ⟨fun _ => rfl, wrapAxis_laws hwidth p.x, wrapAxis_laws hheight p.y⟩

/-- The laws at a position that is three half extents off in both directions, to the right and
downwards: there the modes part in one coordinate only. -/
theorem wrap_laws_corner :
    let canvas : Canvas ℚ := ⟨300, 200⟩
    let p : Point ℚ := ⟨900, -600⟩
    0 < canvas.halfWidth ∧ 0 < canvas.halfHeight ∧
    (∀ mode : WrapMode, mode.wrap p canvas
      = ⟨mode.wrapAxis p.x canvas.halfWidth, mode.wrapAxis p.y canvas.halfHeight⟩) ∧
    (AxisLaws canvas.halfWidth p.x fun mode => mode.wrapAxis p.x canvas.halfWidth) ∧
    AxisLaws canvas.halfHeight p.y fun mode => mode.wrapAxis p.y canvas.halfHeight := by
  intro canvas p
  have hwidth : 0 < canvas.halfWidth := by
    show (0 : ℚ) < 300
    norm_num
  have hheight : 0 < canvas.halfHeight := by
    show (0 : ℚ) < 200
    norm_num
  exact ⟨hwidth, hheight, wrap_laws canvas hwidth hheight p⟩

end Camouflage.WrapMode
