/-
Camouflage/Proofs/Raster/StampLimit.lean

What the limit on the steps of a stroke does to the picture.  A stroke without a
limit has a pen stamp for every unit of its length.  With a limit it has as many
stamps as the limit allows, and they are spread over the whole of it, so a long
stroke does not lose its far end: it gets gaps everywhere, also where it crosses
the image.  Where both sides of the image are zero, so is the limit, and a thick
stroke, which would change nothing there, cannot be made at all.

The picture is the same exactly if the sides are not both zero and the stamps cover
the same pixels, apart from those on the line of the stroke and those that have its
color already (`stroke_unlimited_iff`).  For a stroke no longer than the limit the
stamps are the same; `stroke_limit_shows` is one for which they are not.
-/
import Camouflage.Proofs.Number.ExactPixels
import Camouflage.Proofs.Raster.Strokes
import Mathlib.Data.Rat.Floor

namespace Camouflage

variable {β : Type} [PixelScalar β]

/-! ### Steps and stamps -/

namespace Raster

/-- A pixel is covered by a pen stamp of a stroke that is divided into some steps. -/
def Stamped (x₀ y₀ x₁ y₁ : β) (thickness steps : Nat) (p : Int × Int) : Prop :=
  ∃ i ≤ steps, p ∈ stampPixels (thickness / 2) steps x₀ y₀ (x₁ - x₀) (y₁ - y₀) i

/-- The pixels of a thick stroke are those of its line and of its stamps. -/
theorem mem_strokePixels_iff (x₀ y₀ x₁ y₁ : β) {thickness : Nat} (hthick : 2 ≤ thickness)
    (steps : Nat) (p : Int × Int) : p ∈ strokePixels x₀ y₀ x₁ y₁ thickness steps ↔
      p ∈ line collect x₀ y₀ x₁ y₁ [] ∨ Stamped x₀ y₀ x₁ y₁ thickness steps p := by
  rw [strokePixels_eq x₀ y₀ x₁ y₁ hthick, List.mem_append, List.mem_flatMap]
  simp only [List.mem_range, Nat.lt_succ_iff]
  rfl

end Raster

namespace Image

open Raster

/-- Two numbers of steps give one picture exactly if the stamps cover the same of those pixels that
are not on the line and have another color. -/
theorem strokeInSteps_eq_iff (image : Image) (color : Color) (x₀ y₀ x₁ y₁ : β) {thickness : Nat}
    (hthick : 2 ≤ thickness) (steps steps' : Nat) :
    image.strokeInSteps color x₀ y₀ x₁ y₁ thickness steps =
        image.strokeInSteps color x₀ y₀ x₁ y₁ thickness steps' ↔
      ∀ x < image.width, ∀ y < image.height, ∀ under, image.pixel? x y = some under →
        under ≠ color → ((x : Int), (y : Int)) ∉ line collect x₀ y₀ x₁ y₁ [] →
          (Stamped x₀ y₀ x₁ y₁ thickness steps (x, y) ↔
            Stamped x₀ y₀ x₁ y₁ thickness steps' (x, y)) := by
  rw [strokeInSteps_eq, strokeInSteps_eq, paintAll_eq_iff]
  refine forall₂_congr fun x _ => forall₂_congr fun y _ => forall₂_congr fun under _ =>
    forall_congr' fun _ => ?_
  rw [mem_strokePixels_iff _ _ _ _ hthick, mem_strokePixels_iff _ _ _ _ hthick]
  refine ⟨fun h hline => ?_, or_congr_right'⟩
  -- off the line only the stamps are left to decide
  simpa only [or_iff_right hline] using h

/-- A thick stroke on an image is made in the steps that are allowed, unless both sides are zero and
it is not made at all. -/
theorem stroke_eq_some_iff {image : Image} (hsides : image.width + image.height < UInt32.size)
    (color : Color) (x₀ y₀ x₁ y₁ : β) {thickness : Nat} (hthick : 2 ≤ thickness)
    (painted : Image) : image.stroke color x₀ y₀ x₁ y₁ thickness = some painted ↔
      0 < image.width + image.height ∧ image.strokeInSteps color x₀ y₀ x₁ y₁ thickness
        (allowedSteps image.width image.height x₀ y₀ x₁ y₁) = painted := by
  have hstrokable : Strokable image.width image.height thickness ↔ 0 < image.width + image.height :=
    ⟨fun h => h.2 hthick, fun h => strokable_of_pos h hsides thickness⟩
  rw [stroke_eq, Option.ite_none_right_eq_some, Option.some_inj, hstrokable]

/-! ### Exact numbers -/

open Exact

variable {K : Type} [Field K] [LinearOrder K] [FloorRing K] [IsStrictOrderedRing K]

/-- **The limit on steps.**  Let the sides of an image have a sum of 32 bits.  If they are not both
zero, a stroke that is no longer than the image allows steps is painted as without a limit.  Any
stroke is painted so exactly if they are not both zero and each pixel of the image that is not on
the line of the stroke and has another color is covered by one of its stamps when, and only when,
one of the stamps without a limit covers it. -/
theorem stroke_unlimited_iff (image : Image) (hsides : image.width + image.height < UInt32.size)
    (color : Color) (x₀ y₀ x₁ y₁ : K) {thickness : Nat} (hthick : 2 ≤ thickness) :
    let most := 4 * (image.width + image.height)
    let unlimited := lengthSteps x₀ y₀ x₁ y₁
    (0 < image.width + image.height → (x₁ - x₀) ^ 2 + (y₁ - y₀) ^ 2 ≤ (most : K) ^ 2 →
      image.stroke color x₀ y₀ x₁ y₁ thickness =
        some (image.strokeInSteps color x₀ y₀ x₁ y₁ thickness unlimited)) ∧
    (image.stroke color x₀ y₀ x₁ y₁ thickness =
        some (image.strokeInSteps color x₀ y₀ x₁ y₁ thickness unlimited) ↔
      0 < image.width + image.height ∧
      ∀ x < image.width, ∀ y < image.height, ∀ under, image.pixel? x y = some under →
        under ≠ color → ((x : Int), (y : Int)) ∉ line collect x₀ y₀ x₁ y₁ [] →
          (Stamped x₀ y₀ x₁ y₁ thickness (min unlimited most) (x, y) ↔
            Stamped x₀ y₀ x₁ y₁ thickness unlimited (x, y))) := by
  intro most unlimited
  have hstroke := stroke_eq_some_iff hsides color x₀ y₀ x₁ y₁ hthick
    (image.strokeInSteps color x₀ y₀ x₁ y₁ thickness unlimited)
  refine ⟨fun hpos hlength => hstroke.2 ⟨hpos, ?_⟩, hstroke.trans (and_congr_right fun _ => ?_)⟩
  · -- a short stroke has no more steps than are allowed
    have hone : 1 ≤ most := by
      show 1 ≤ 4 * _
      omega
    have hmost : unlimited ≤ most := max_le ((Exact.lengthUp_le_iff _ _ _).2 hlength) hone
    rw [allowedSteps, Nat.min_eq_left hmost]
  · exact strokeInSteps_eq_iff image color x₀ y₀ x₁ y₁ hthick _ _

/-- The statement at a stroke across an image of two by two pixels, which is no longer than its
limit. -/
theorem stroke_unlimited_iff_diagonal :
    (filled 2 2 ⟨0, 0, 0⟩).width + (filled 2 2 ⟨0, 0, 0⟩).height < UInt32.size ∧ 2 ≤ 3 ∧
      0 < (filled 2 2 ⟨0, 0, 0⟩).width + (filled 2 2 ⟨0, 0, 0⟩).height ∧
      ((2 - 0 : ℚ) ^ 2 + (2 - 0) ^ 2 ≤ ((4 * (2 + 2) : ℕ) : ℚ) ^ 2) ∧
      (filled 2 2 ⟨0, 0, 0⟩).stroke ⟨255, 0, 0⟩ (0 : ℚ) 0 2 2 3 =
        some ((filled 2 2 ⟨0, 0, 0⟩).strokeInSteps ⟨255, 0, 0⟩ (0 : ℚ) 0 2 2 3
          (lengthSteps (0 : ℚ) 0 2 2)) := by
  have hsides : (filled 2 2 ⟨0, 0, 0⟩).width + (filled 2 2 ⟨0, 0, 0⟩).height < UInt32.size := by
    decide
  have hthick : 2 ≤ 3 := by decide
  have hpos : 0 < (filled 2 2 ⟨0, 0, 0⟩).width + (filled 2 2 ⟨0, 0, 0⟩).height := by decide
  have hlength : (2 - 0 : ℚ) ^ 2 + (2 - 0) ^ 2 ≤ ((4 * (2 + 2) : ℕ) : ℚ) ^ 2 := by norm_num
  exact ⟨hsides, hthick, hpos, hlength, (stroke_unlimited_iff (filled 2 2 ⟨0, 0, 0⟩) hsides
    ⟨255, 0, 0⟩ (0 : ℚ) 0 2 2 hthick).1 hpos hlength⟩

/-! ### A stroke with gaps -/

/-- An image of two by two pixels allows sixteen steps.  Along its upper row, from well before it to
well behind it, they are eight pixels wide, and no stamp is on the image.  Without the limit one of
them covers the lower left pixel. -/
theorem stroke_limit_shows :
    (filled 2 2 ⟨0, 0, 0⟩).stroke ⟨255, 0, 0⟩ (-68 : ℚ) 0 60 0 2 ≠
      some ((filled 2 2 ⟨0, 0, 0⟩).strokeInSteps ⟨255, 0, 0⟩ (-68 : ℚ) 0 60 0 2
        (lengthSteps (-68 : ℚ) 0 60 0)) := by
  have hsteps : lengthSteps (-68 : ℚ) 0 60 0 = 128 := by
    have hlower : ¬ PixelScalar.lengthUp (60 - -68 : ℚ) (0 - 0) ≤ 127 := by
      rw [Exact.lengthUp_le_iff]
      norm_num
    have hupper : PixelScalar.lengthUp (60 - -68 : ℚ) (0 - 0) ≤ 128 := by
      rw [Exact.lengthUp_le_iff]
      norm_num
    rw [lengthSteps]
    omega
  intro h
  obtain ⟨-, hpainted⟩ := (stroke_eq_some_iff (by decide) ⟨255, 0, 0⟩ (-68 : ℚ) 0 60 0
    (Nat.le_refl 2) _).1 h
  have hcovered := (strokeInSteps_eq_iff (filled 2 2 ⟨0, 0, 0⟩) ⟨255, 0, 0⟩ (-68 : ℚ) 0 60 0
    (Nat.le_refl 2) _ _).1 hpainted 0 (by decide) 1 (by decide) ⟨0, 0, 0⟩ (by decide) (by decide)
    (by decide +kernel)
  rw [allowedSteps, hsteps] at hcovered
  have hwith : ¬ Stamped (-68 : ℚ) 0 60 0 2 16 (0, 1) := by
    rintro ⟨i, hi, hmem⟩
    revert i
    decide +kernel
  have hwithout : Stamped (-68 : ℚ) 0 60 0 2 128 (0, 1) := ⟨68, by decide, by decide +kernel⟩
  exact hwith (hcovered.2 hwithout)

end Image

end Camouflage
