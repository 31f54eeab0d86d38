/-
Camouflage/Proofs/Raster/Painting.lean

What painting does to a pixel.  Painting a position gives its pixel the color and
keeps every other pixel (`pixel?_paint`); rows do not run into each other, because
a column is always smaller than the width.  So after a list of positions has been
painted in one color, a pixel has this color if its position is in the list, and
is what it was if not (`pixel?_paintAll`).  The order of the list and how often a
position is in it make no difference, and so it can be said when two lists make
the same image (`paintAll_eq_iff`).
-/
import Camouflage.Raster.Image

namespace Camouflage.Image

variable (image : Image) (color : Color)

/-! ### One position -/

@[simp] theorem width_paint (x y : Int) : (image.paint x y color).width = image.width := by
  unfold paint
  dsimp only
  split
  · rfl
  · rfl

@[simp] theorem height_paint (x y : Int) : (image.paint x y color).height = image.height := by
  unfold paint
  dsimp only
  split
  · rfl
  · rfl

/-- The index of a pixel determines its column and its row. -/
theorem index_inj {width x x' y y' : Nat} (hx : x < width) (hx' : x' < width) :
    y * width + x = y' * width + x' ↔ x = x' ∧ y = y' := by
  constructor
  · intro h
    have hcolumn := congrArg (· % width) h
    simp only [Nat.mul_add_mod', Nat.mod_eq_of_lt hx, Nat.mod_eq_of_lt hx'] at hcolumn
    subst hcolumn
    exact ⟨rfl, Nat.eq_of_mul_eq_mul_right (Nat.zero_lt_of_lt hx) (Nat.add_right_cancel h)⟩
  · rintro ⟨rfl, rfl⟩
    rfl

/-- There are no pixels beyond the last column. -/
theorem pixel?_of_width_le {i : Nat} (h : image.width ≤ i) (j : Nat) : image.pixel? i j = none :=
  if_neg (Nat.not_lt.2 h)

/-- Painting gives a pixel the color if it is the one at the position. -/
theorem pixel?_paint (x y : Int) {i j : Nat} (hj : j < image.height) :
    (image.paint x y color).pixel? i j =
      if (x, y) = ((i : Int), (j : Int)) then (image.pixel? i j).map fun _ => color
      else image.pixel? i j := by
  by_cases hi : i < image.width
  · obtain ⟨width, height, pixels⟩ := image
    simp only [paint, Bool.and_eq_true, decide_eq_true_eq, Prod.mk.injEq]
    dsimp only at hi hj
    by_cases hon : ((0 ≤ x ∧ x < width) ∧ 0 ≤ y) ∧ y < height
    · -- the position is on the image, so it is that of a pixel
      obtain ⟨column, rfl⟩ := Int.eq_ofNat_of_zero_le hon.1.1.1
      obtain ⟨row, rfl⟩ := Int.eq_ofNat_of_zero_le hon.1.2
      have hcolumn : column < width := Int.ofNat_lt.1 hon.1.1.2
      rw [if_pos hon]
      simp only [pixel?, if_pos hi, Int.toNat_natCast, Int.natCast_inj,
        Array.getElem?_setIfInBounds, index_inj hcolumn hi]
      split
      · next h =>
        obtain ⟨rfl, rfl⟩ := h
        by_cases hsize : row * width + column < pixels.size
        · rw [if_pos hsize, Array.getElem?_eq_getElem hsize, Option.map_some]
        · rw [if_neg hsize, Array.getElem?_eq_none (Nat.not_lt.1 hsize), Option.map_none]
      · rfl
    · have hother : ¬(x = i ∧ y = j) := by omega
      rw [if_neg hon, if_neg hother]
  · have hwide := Nat.not_lt.1 hi
    rw [pixel?_of_width_le _ (by rwa [width_paint]), pixel?_of_width_le _ hwide, Option.map_none,
      ite_self]

/-! ### A list of positions -/

/-- The image with some positions painted. -/
def paintAll (image : Image) (pixels : List (Int × Int)) (color : Color) : Image :=
  pixels.foldl (fun image p => image.paint p.1 p.2 color) image

theorem paintAll_cons (p : Int × Int) (pixels : List (Int × Int)) :
    image.paintAll (p :: pixels) color = (image.paint p.1 p.2 color).paintAll pixels color := rfl

theorem paintAll_append (front back : List (Int × Int)) :
    image.paintAll (front ++ back) color = (image.paintAll front color).paintAll back color :=
  List.foldl_append

@[simp] theorem width_paintAll (pixels : List (Int × Int)) :
    (image.paintAll pixels color).width = image.width := by
  induction pixels generalizing image with
  | nil => rfl
  | cons p pixels ih => rw [paintAll_cons, ih, width_paint]

@[simp] theorem height_paintAll (pixels : List (Int × Int)) :
    (image.paintAll pixels color).height = image.height := by
  induction pixels generalizing image with
  | nil => rfl
  | cons p pixels ih => rw [paintAll_cons, ih, height_paint]

/-- A pixel has the color if its position is among those painted. -/
theorem pixel?_paintAll (pixels : List (Int × Int)) {i j : Nat} (hj : j < image.height) :
    (image.paintAll pixels color).pixel? i j =
      if ((i : Int), (j : Int)) ∈ pixels then (image.pixel? i j).map fun _ => color
      else image.pixel? i j := by
  induction pixels generalizing image with
  | nil => rfl
  | cons p pixels ih =>
    rw [paintAll_cons, ih _ (by rwa [height_paint]), pixel?_paint _ _ _ _ hj]
    by_cases hp : p = ((i : Int), (j : Int))
    · -- painted now, and perhaps once more later on, in the same color
      subst hp
      rw [if_pos rfl, if_pos List.mem_cons_self, Option.map_map]
      exact ite_self _
    · have hmem : ((i : Int), (j : Int)) ∈ p :: pixels ↔ ((i : Int), (j : Int)) ∈ pixels := by
        rw [List.mem_cons, or_iff_right (Ne.symm hp)]
      rw [if_neg hp]
      simp only [hmem]

/-! ### Equal images -/

/-- What lies behind the last row is never painted. -/
theorem getElem?_pixels_paint (x y : Int) {k : Nat} (hk : image.width * image.height ≤ k) :
    (image.paint x y color).pixels[k]? = image.pixels[k]? := by
  obtain ⟨width, height, pixels⟩ := image
  simp only [paint, Bool.and_eq_true, decide_eq_true_eq]
  split
  · next hon =>
    obtain ⟨column, rfl⟩ := Int.eq_ofNat_of_zero_le hon.1.1.1
    obtain ⟨row, rfl⟩ := Int.eq_ofNat_of_zero_le hon.1.2
    have hcolumn : column < width := Int.ofNat_lt.1 hon.1.1.2
    have hrow : row < height := Int.ofNat_lt.1 hon.2
    have hindex : row * width + column < k := by
      calc row * width + column < row * width + width := Nat.add_lt_add_left hcolumn _
        _ = width * (row + 1) := by rw [Nat.mul_succ, Nat.mul_comm]
        _ ≤ width * height := Nat.mul_le_mul_left width hrow
        _ ≤ k := hk
    rw [Int.toNat_natCast, Int.toNat_natCast]
    exact Array.getElem?_setIfInBounds_ne (Nat.ne_of_lt hindex)
  · rfl

theorem getElem?_pixels_paintAll (pixels : List (Int × Int)) {k : Nat}
    (hk : image.width * image.height ≤ k) :
    (image.paintAll pixels color).pixels[k]? = image.pixels[k]? := by
  induction pixels generalizing image with
  | nil => rfl
  | cons p pixels ih =>
    rw [paintAll_cons, ih _ (by rwa [width_paint, height_paint]), getElem?_pixels_paint _ _ _ _ hk]

/-- Images of one size are equal if they are so at every pixel and behind the last row. -/
theorem ext_pixel? {image image' : Image} (hwidth : image.width = image'.width)
    (hheight : image.height = image'.height)
    (hpixel : ∀ x < image.width, ∀ y < image.height, image.pixel? x y = image'.pixel? x y)
    (hrest : ∀ k, image.width * image.height ≤ k → image.pixels[k]? = image'.pixels[k]?) :
    image = image' := by
  obtain ⟨width, height, pixels⟩ := image
  obtain ⟨width', height', pixels'⟩ := image'
  dsimp only at hwidth hheight hpixel hrest
  subst hwidth hheight
  have hpixels : pixels = pixels' := by
    refine Array.ext_getElem? fun k => ?_
    rcases Nat.lt_or_ge k (width * height) with hk | hk
    · -- the index is that of a column and a row
      have hpos : 0 < width := Nat.pos_of_mul_pos_right (Nat.zero_lt_of_lt hk)
      have hcolumn : k % width < width := Nat.mod_lt k hpos
      have hsame := hpixel (k % width) hcolumn (k / width) (Nat.div_lt_of_lt_mul hk)
      rwa [pixel?, pixel?, if_pos hcolumn, if_pos hcolumn, Nat.div_add_mod'] at hsame
    · exact hrest k hk
  rw [hpixels]

/-- Two lists of positions paint one image in one color exactly if every pixel of another color is
in both or in neither. -/
theorem paintAll_eq_iff (pixels pixels' : List (Int × Int)) :
    image.paintAll pixels color = image.paintAll pixels' color ↔
      ∀ x < image.width, ∀ y < image.height, ∀ under, image.pixel? x y = some under →
        under ≠ color → (((x : Int), (y : Int)) ∈ pixels ↔ ((x : Int), (y : Int)) ∈ pixels') := by
  constructor
  · intro h x _ y hy under hunder hcolor
    have hpixel := congrArg (fun image => image.pixel? x y) h
    simp only [pixel?_paintAll image color _ hy, hunder, Option.map_some] at hpixel
    by_cases hmem : ((x : Int), (y : Int)) ∈ pixels
    · by_cases hmem' : ((x : Int), (y : Int)) ∈ pixels'
      · exact iff_of_true hmem hmem'
      · rw [if_pos hmem, if_neg hmem'] at hpixel
        exact absurd (Option.some_inj.1 hpixel).symm hcolor
    · by_cases hmem' : ((x : Int), (y : Int)) ∈ pixels'
      · rw [if_neg hmem, if_pos hmem'] at hpixel
        exact absurd (Option.some_inj.1 hpixel) hcolor
      · exact iff_of_false hmem hmem'
  · intro h
    refine ext_pixel? ?_ ?_ ?_ ?_
    · rw [width_paintAll, width_paintAll]
    · rw [height_paintAll, height_paintAll]
    · intro x hx y hy
      rw [width_paintAll] at hx
      rw [height_paintAll] at hy
      rw [pixel?_paintAll image color _ hy, pixel?_paintAll image color _ hy]
      cases hunder : image.pixel? x y with
      | none => rw [Option.map_none, ite_self, ite_self]
      | some under =>
        by_cases hcolor : under = color
        · -- the pixel keeps its color whether it is painted or not
          rw [Option.map_some, hcolor, ite_self, ite_self]
        · simp only [h x hx y hy under hunder hcolor]
    · intro k hk
      rw [width_paintAll, height_paintAll] at hk
      rw [getElem?_pixels_paintAll image color _ hk, getElem?_pixels_paintAll image color _ hk]

end Camouflage.Image
