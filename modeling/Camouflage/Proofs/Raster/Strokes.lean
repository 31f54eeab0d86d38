/-
Camouflage/Proofs/Raster/Strokes.lean

When a line can be stroked on an image, and what it paints there.  The sides of
the image must have a sum of 32 bits, and for a thick line they must not both be
zero (`Strokable`).  A stroke on such an image is one in steps, as many as its
length asks for and the image allows; on any other image there is none
(`stroke_eq`).  A stroke in steps paints its pixels (`strokeInSteps_eq`).
-/
import Camouflage.Proofs.Raster.Painting
import Camouflage.Proofs.Raster.Shapes
import Camouflage.Raster.Rasterizer

namespace Camouflage

variable {β : Type} [PixelScalar β]

/-- A stroke is one in so many steps as its length asks for and the limit allows.  Only for a thick
one the limit must not be zero. -/
theorem Raster.stroke_eq {γ : Type} (plot : γ → Int → Int → γ) (x₀ y₀ x₁ y₁ : β)
    (thickness most : Nat) (acc : γ) : stroke plot x₀ y₀ x₁ y₁ thickness most acc =
      if 2 ≤ thickness → 1 ≤ most then
        some (strokeInSteps plot x₀ y₀ x₁ y₁ thickness (min (lengthSteps x₀ y₀ x₁ y₁) most) acc)
      else none := by
  rw [stroke]
  by_cases hthin : thickness ≤ 1
  · -- a thin line has no steps, so their number makes no difference
    have hthick : ¬ 2 ≤ thickness := Nat.not_le.2 (Nat.lt_succ_of_le hthin)
    rw [if_pos hthin, if_pos fun h => absurd h hthick, strokeInSteps, if_pos hthin]
  · rw [if_neg hthin, limitSteps?]
    by_cases hmost : 1 ≤ most
    · rw [if_pos hmost, if_pos fun _ => hmost]
    · rw [if_neg hmost, if_neg fun h => hmost (h (Nat.lt_of_not_le hthin))]

namespace Image

/-! ### Sizes -/

/-- A line of some thickness can be stroked on an image of some size: the number of steps that the
image allows can be computed, and if the line is thick it is not zero. -/
def Strokable (width height thickness : Nat) : Prop :=
  width + height < UInt32.size ∧ (2 ≤ thickness → 0 < width + height)

instance (width height thickness : Nat) : Decidable (Strokable width height thickness) :=
  inferInstanceAs (Decidable (_ ∧ _))

/-- On an image whose sides are not both zero and have a sum of 32 bits, every line can be
stroked. -/
theorem strokable_of_pos {width height : Nat} (hpos : 0 < width + height)
    (hsides : width + height < UInt32.size) (thickness : Nat) : Strokable width height thickness :=
  ⟨hsides, fun _ => hpos⟩

/-! ### Strokes -/

/-- The image with a stroke in some steps. -/
def strokeInSteps (image : Image) (color : Color) (x₀ y₀ x₁ y₁ : β) (thickness steps : Nat) :
    Image :=
  Raster.strokeInSteps (fun image x y => image.paint x y color) x₀ y₀ x₁ y₁ thickness steps image

/-- The number of steps of a stroke on an image of some size. -/
def allowedSteps (width height : Nat) (x₀ y₀ x₁ y₁ : β) : Nat :=
  min (Raster.lengthSteps x₀ y₀ x₁ y₁) (4 * (width + height))

variable (image : Image) (color : Color) (x₀ y₀ x₁ y₁ : β) (thickness : Nat)

theorem strokeInSteps_eq (steps : Nat) :
    image.strokeInSteps color x₀ y₀ x₁ y₁ thickness steps =
      image.paintAll (Raster.strokePixels x₀ y₀ x₁ y₁ thickness steps) color :=
  Raster.strokeInSteps_eq_foldl _ _ _ _ _ _ _ _

/-- **Strokes on an image.**  Where a line can be stroked, it is in the steps that are allowed;
where it cannot, there is no image. -/
theorem stroke_eq : image.stroke color x₀ y₀ x₁ y₁ thickness =
    if Strokable image.width image.height thickness then
      some (image.strokeInSteps color x₀ y₀ x₁ y₁ thickness
        (allowedSteps image.width image.height x₀ y₀ x₁ y₁))
    else none := by
  by_cases hsides : image.width + image.height < UInt32.size
  · have hmost : image.mostSteps? = some (4 * (image.width + image.height)) := if_pos hsides
    have hstrokable : (2 ≤ thickness → 1 ≤ 4 * (image.width + image.height)) ↔
        Strokable image.width image.height thickness := by
      rw [Strokable, and_iff_right hsides]
      omega
    rw [stroke, hmost]
    refine (Raster.stroke_eq _ x₀ y₀ x₁ y₁ thickness _ image).trans ?_
    simp only [hstrokable]
    rfl
  · have hmost : image.mostSteps? = none := if_neg hsides
    rw [stroke, hmost, if_neg fun h => hsides h.1]

end Image

end Camouflage
