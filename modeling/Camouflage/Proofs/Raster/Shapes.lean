/-
Camouflage/Proofs/Raster/Shapes.lean

Shapes as lists of pixels.  A shape is handed a function and applies it to one
pixel after the other.  It never looks at what the function makes of them, so
there is a list of pixels it goes over, which is the same for every function
(`IsShape`).  Nothing, a pixel, one shape after another and a choice between two
shapes are shapes, and everything from lines to strokes is built of these.

The list is what the function that collects pixels makes of the shape
(`IsShape.eq_foldl_collected`); for a stroke in some steps it is called
`strokePixels`, and it is made up of the pixels of the line and those of each pen
stamp (`strokePixels_eq`).
-/
import Camouflage.Raster.Stroke

namespace Camouflage.Raster

/-! ### Shapes -/

/-- Something that goes over the pixels of a list, whatever is done with them. -/
def IsShape (shape : (γ : Type) → (γ → Int → Int → γ) → γ → γ) : Prop :=
  ∃ pixels : List (Int × Int), ∀ (γ : Type) (plot : γ → Int → Int → γ) (acc : γ),
    shape γ plot acc = pixels.foldl (fun acc p => plot acc p.1 p.2) acc

/-- Adds a pixel to those collected. -/
def collect (pixels : List (Int × Int)) (x y : Int) : List (Int × Int) := pixels ++ [(x, y)]

theorem foldl_collect (front pixels : List (Int × Int)) :
    pixels.foldl (fun pixels p => collect pixels p.1 p.2) front = front ++ pixels := by
  induction pixels generalizing front with
  | nil => exact (List.append_nil front).symm
  | cons p pixels ih =>
    rw [List.foldl_cons, ih, collect, List.append_assoc, List.singleton_append]

namespace IsShape

variable {f g : (γ : Type) → (γ → Int → Int → γ) → γ → γ}

theorem nothing : IsShape fun _ _ acc => acc :=
  ⟨[], fun _ _ _ => rfl⟩

theorem pixel (x y : Int) : IsShape fun _ plot acc => plot acc x y :=
  ⟨[(x, y)], fun _ _ _ => rfl⟩

/-- One shape after another. -/
theorem comp (hg : IsShape g) (hf : IsShape f) :
    IsShape fun γ plot acc => g γ plot (f γ plot acc) := by
  obtain ⟨back, hback⟩ := hg
  obtain ⟨front, hfront⟩ := hf
  refine ⟨front ++ back, ?_⟩
  intro γ plot acc
  show g γ plot (f γ plot acc) = _
  rw [hback, hfront, List.foldl_append]

/-- A choice between shapes that does not depend on what is done with pixels. -/
theorem ite (c : Prop) [Decidable c] (hf : IsShape f) (hg : IsShape g) :
    IsShape fun γ plot acc => if c then f γ plot acc else g γ plot acc := by
  by_cases hc : c
  · simpa only [if_pos hc] using hf
  · simpa only [if_neg hc] using hg

/-- The pixels a shape goes over are those that it collects. -/
theorem eq_foldl_collected (h : IsShape f) (γ : Type) (plot : γ → Int → Int → γ) (acc : γ) :
    f γ plot acc = (f _ collect []).foldl (fun acc p => plot acc p.1 p.2) acc := by
  obtain ⟨pixels, hpixels⟩ := h
  -- the list of a shape is unique, because collecting is one of the things to do with pixels
  rw [hpixels, hpixels, foldl_collect, List.nil_append]

/-- What a shape collects comes behind what has been collected before. -/
theorem collect_append (h : IsShape f) (front : List (Int × Int)) :
    f _ collect front = front ++ f _ collect [] := by
  rw [h.eq_foldl_collected, foldl_collect]

end IsShape

variable {β : Type} [PixelScalar β]

/-! ### Lines -/

theorem isShape_lineFrom (steep : Bool) (dx dy : β) (yStep : Int) (left : Nat) (x y : Int)
    (error : β) :
    IsShape fun _ plot acc => lineFrom plot steep dx dy yStep left x y error acc := by
  induction left generalizing x y error with
  | zero => exact .nothing
  | succ left ih =>
    exact (IsShape.ite _ (ih _ _ _) (ih _ _ _)).comp (.ite _ (.pixel y x) (.pixel x y))

theorem isShape_orderedLine (steep : Bool) (x₀ y₀ x₁ y₁ : β) :
    IsShape fun _ plot acc => orderedLine plot steep x₀ y₀ x₁ y₁ acc :=
  .ite _ (isShape_lineFrom _ _ _ _ _ _ _ _) (isShape_lineFrom _ _ _ _ _ _ _ _)

theorem isShape_line (x₀ y₀ x₁ y₁ : β) : IsShape fun _ plot acc => line plot x₀ y₀ x₁ y₁ acc :=
  .ite _ (isShape_orderedLine true y₀ x₀ y₁ x₁) (isShape_orderedLine false x₀ y₀ x₁ y₁)

/-! ### Discs -/

variable (β) in
theorem isShape_row (left right y : Int) : IsShape fun _ plot acc => row β plot left right y acc :=
  isShape_line _ _ _ _

variable (β) in
theorem isShape_discFrom (x₀ y₀ : Int) (fuel : Nat) (x y p : Int) :
    IsShape fun _ plot acc => discFrom β plot x₀ y₀ fuel x y p acc := by
  induction fuel generalizing x y p with
  | zero => exact .nothing
  | succ fuel ih =>
    have hrows := (isShape_row β (x₀ - y) (x₀ + y) (y₀ - x)).comp
      ((isShape_row β (x₀ - x) (x₀ + x) (y₀ - y)).comp
        ((isShape_row β (x₀ - y) (x₀ + y) (y₀ + x)).comp
          (isShape_row β (x₀ - x) (x₀ + x) (y₀ + y))))
    exact .ite _ ((IsShape.ite _ (ih _ _ _) (ih _ _ _)).comp hrows) .nothing

variable (β) in
theorem isShape_disc (x₀ y₀ : Int) (radius : Nat) :
    IsShape fun _ plot acc => disc β plot x₀ y₀ radius acc :=
  isShape_discFrom β x₀ y₀ _ _ _ _

/-! ### Strokes -/

theorem isShape_stamps (radius steps : Nat) (x₀ y₀ dx dy : β) (left i : Nat) :
    IsShape fun _ plot acc => stamps plot radius steps x₀ y₀ dx dy left i acc := by
  induction left generalizing i with
  | zero => exact .nothing
  | succ left ih => exact (ih (i + 1)).comp (isShape_disc β _ _ radius)

theorem isShape_strokeInSteps (x₀ y₀ x₁ y₁ : β) (thickness steps : Nat) :
    IsShape fun _ plot acc => strokeInSteps plot x₀ y₀ x₁ y₁ thickness steps acc := by
  have hline := isShape_line x₀ y₀ x₁ y₁
  exact .ite _ hline ((isShape_stamps _ _ _ _ _ _ _ _).comp hline)

/-- The pixels of a stroke in some steps, in the order in which they are gone over. -/
def strokePixels (x₀ y₀ x₁ y₁ : β) (thickness steps : Nat) : List (Int × Int) :=
  strokeInSteps collect x₀ y₀ x₁ y₁ thickness steps []

/-- **Strokes.**  Whatever is done with pixels, a stroke does it with its pixels one by one. -/
theorem strokeInSteps_eq_foldl {γ : Type} (plot : γ → Int → Int → γ) (x₀ y₀ x₁ y₁ : β)
    (thickness steps : Nat) (acc : γ) : strokeInSteps plot x₀ y₀ x₁ y₁ thickness steps acc =
      (strokePixels x₀ y₀ x₁ y₁ thickness steps).foldl (fun acc p => plot acc p.1 p.2) acc :=
  (isShape_strokeInSteps x₀ y₀ x₁ y₁ thickness steps).eq_foldl_collected γ plot acc

/-! ### Stamps -/

/-- The pixels of the `i`-th pen stamp of a stroke of some steps. -/
def stampPixels (radius steps : Nat) (x₀ y₀ dx dy : β) (i : Nat) : List (Int × Int) :=
  disc β collect (PixelScalar.round (x₀ + dx * PixelScalar.ratio i steps))
    (PixelScalar.round (y₀ + dy * PixelScalar.ratio i steps)) radius []

theorem stamps_collect (radius steps : Nat) (x₀ y₀ dx dy : β) (left i : Nat) :
    stamps collect radius steps x₀ y₀ dx dy left i [] =
      (List.range' i left).flatMap (stampPixels radius steps x₀ y₀ dx dy) := by
  induction left generalizing i with
  | zero => rfl
  | succ left ih =>
    rw [stamps, (isShape_stamps radius steps x₀ y₀ dx dy left (i + 1)).collect_append, ih,
      List.range'_succ, List.flatMap_cons]
    rfl

theorem strokePixels_eq (x₀ y₀ x₁ y₁ : β) {thickness : Nat} (hthick : 2 ≤ thickness)
    (steps : Nat) : strokePixels x₀ y₀ x₁ y₁ thickness steps = line collect x₀ y₀ x₁ y₁ [] ++
      (List.range (steps + 1)).flatMap
        (stampPixels (thickness / 2) steps x₀ y₀ (x₁ - x₀) (y₁ - y₀)) := by
  rw [strokePixels, strokeInSteps, if_neg (Nat.not_le.2 hthick),
    (isShape_stamps _ _ _ _ _ _ _ _).collect_append, stamps_collect, List.range_eq_range']

end Camouflage.Raster
