/-
Camouflage/Proofs/Raster/Painter.lean

Pictures are made of layers.  A tree that begins with a jump has a set of pixels
of its own, which depends on its movements and on the size of the picture alone
(`Tree.pixels`): the pen comes from nowhere else, and the shape of a stroke does
not depend on what it is painted on.  Replaying the tree paints these pixels in
its color and nothing else (`Sized.replay_tree`), so the trees of a pattern lie on
each other like layers, and at each pixel the last of them that has it is seen.

There is a picture exactly if the lines of all trees can be stroked
(`exists_rasterize?_iff`).  The sides of the picture decide that for every tree by
itself, so that there is a picture of each tree alone where there is one of the
pattern, and sides that are not both zero and have a sum of 32 bits are enough
for every pattern (`exists_rasterize?`).

The pixels of a tree can be told from pictures (`Tree.shows_iff`): they are those
that have its color when it is alone on a background of another color.  This makes
the statement about layers one about pictures (`rasterize_painter`).
-/
import Camouflage.Proofs.Pattern.Lines
import Camouflage.Proofs.Raster.Strokes
import Mathlib.Data.List.Find

namespace Camouflage

variable {α β : Type} [Scalar α] [PixelScalar β] [PixelConversion α β]
variable {width height : Nat}

/-! ### The pixels of a tree -/

/-- The pixels of a line on a picture, with a pen of a width.  A line from nowhere is a dot. -/
def PenLine.pixels (width height thickness : Nat) (line : PenLine α) : List (Int × Int) :=
  let canvas : Canvas α := Canvas.ofSize width height
  let source := line.source.getD line.target
  let x₀ := Rasterizer.column canvas source
  let y₀ := Rasterizer.row canvas source
  let x₁ := Rasterizer.column canvas line.target
  let y₁ := Rasterizer.row canvas line.target
  Raster.strokePixels x₀ y₀ x₁ y₁ thickness (Image.allowedSteps width height x₀ y₀ x₁ y₁)

namespace Tree

/-- The pixels of a tree on a picture. -/
def pixels (width height : Nat) (tree : Tree α) : List (Int × Int) :=
  tree.lines.flatMap (PenLine.pixels width height tree.thickness)

/-- The lines of a tree, if it has any, can be stroked on a picture. -/
def Strokable (width height : Nat) (tree : Tree α) : Prop :=
  tree.lines = [] ∨ Image.Strokable width height tree.thickness

instance (tree : Tree α) : Decidable (tree.Strokable width height) :=
  inferInstanceAs (Decidable (_ ∨ _))

end Tree

namespace Rasterizer

/-- A rasterizer for a picture of a size. -/
structure Sized (width height : Nat) (r : Rasterizer α) : Prop where
  picture : ∀ image, r.picture = some image → image.width = width ∧ image.height = height
  canvas : r.canvas = Canvas.ofSize width height

variable {r : Rasterizer α}

/-- A line paints its pixels, if it can be stroked. -/
theorem Sized.strokeOn (h : r.Sized width height) {image : Image} (himage : r.picture = some image)
    (p : Point α) (color : Color) (thickness : Nat) :
    strokeOn image r.canvas (r.cursor.getD p) p color thickness =
      if Image.Strokable width height thickness then
        some (image.paintAll ((⟨r.cursor, p⟩ : PenLine α).pixels width height thickness) color)
      else none := by
  obtain ⟨rfl, rfl⟩ := h.picture image himage
  rw [Rasterizer.strokeOn, Image.stroke_eq, Image.strokeInSteps_eq, h.canvas]
  rfl

/-- **Lines.**  After a line there is a picture if there was one and the line can be stroked. -/
theorem Sized.picture_lineTo (h : r.Sized width height) (tree : Tree α) (p : Point α) :
    (tree.tell r (.lineTo p)).picture =
      if Image.Strokable width height tree.thickness then
        r.picture.map fun image => image.paintAll
          ((⟨r.cursor, p⟩ : PenLine α).pixels width height tree.thickness) tree.color
      else none := by
  show (r.picture.bind fun image =>
    Rasterizer.strokeOn image r.canvas (r.cursor.getD p) p tree.color tree.thickness) = _
  cases hpicture : r.picture with
  | none => rw [Option.bind_none, Option.map_none, ite_self]
  | some image => rw [Option.bind_some, h.strokeOn hpicture, Option.map_some]

/-- A rasterizer keeps its size, whatever it is told of a tree. -/
theorem Sized.tell (h : r.Sized width height) (tree : Tree α) (event : PathEvent α) :
    (tree.tell r event).Sized width height := by
  cases event with
  | moveTo p => exact ⟨h.picture, h.canvas⟩
  | lineTo p =>
    refine ⟨fun image himage => ?_, h.canvas⟩
    rw [h.picture_lineTo, Option.ite_none_right_eq_some, Option.map_eq_some_iff] at himage
    obtain ⟨-, before, hbefore, rfl⟩ := himage
    rw [Image.width_paintAll, Image.height_paintAll]
    exact h.picture before hbefore

/-- **Movements.**  Some movements of a tree paint the pixels of the lines among them, if there are
none or they can be stroked. -/
theorem Sized.foldl_tell (h : r.Sized width height) (tree : Tree α) (events : List (PathEvent α)) :
    (events.foldl tree.tell r).Sized width height ∧ (events.foldl tree.tell r).picture =
      if PathEvent.drawn r.cursor events = [] ∨ Image.Strokable width height tree.thickness then
        r.picture.map fun image => image.paintAll
          ((PathEvent.drawn r.cursor events).flatMap (PenLine.pixels width height tree.thickness))
          tree.color
      else none := by
  induction events generalizing r with
  | nil =>
    refine ⟨h, ?_⟩
    rw [if_pos (.inl rfl)]
    exact Option.map_id'.symm
  | cons event events ih =>
    obtain ⟨hsized, hpicture⟩ := ih (h.tell tree event)
    refine ⟨hsized, hpicture.trans ?_⟩
    cases event with
    | moveTo p => rfl
    | lineTo p =>
      rw [h.picture_lineTo, PathEvent.drawn]
      by_cases hstroke : Image.Strokable width height tree.thickness
      · -- the line begins where the pen is, and the pen goes on from its end
        rw [if_pos (.inr hstroke), if_pos hstroke, if_pos (.inr hstroke), Option.map_map]
        refine Option.map_congr fun image _ => ?_
        rw [List.flatMap_cons, Image.paintAll_append]
        rfl
      · have hnone : ¬ (⟨r.cursor, p⟩ :: PathEvent.drawn (some p) events = [] ∨
            Image.Strokable width height tree.thickness) :=
          not_or_intro (List.cons_ne_nil _ _) hstroke
        rw [if_neg hstroke, if_neg hnone, Option.map_none, ite_self]

/-- **Trees.**  A tree that begins with a jump paints its own pixels. -/
theorem Sized.replay_tree (h : r.Sized width height) {tree : Tree α} (hjump : tree.BeginsWithJump) :
    (tree.replay r).Sized width height ∧ (tree.replay r).picture =
      if tree.Strokable width height then
        r.picture.map fun image => image.paintAll (tree.pixels width height) tree.color
      else none := by
  have hevents := h.foldl_tell tree tree.events.toList
  rw [hjump.drawn_eq_lines] at hevents
  rw [Tree.replay, ← Array.foldl_toList]
  exact hevents

/-- Trees paint their pixels one after the other, if the lines of all of them can be stroked. -/
theorem Sized.foldl_replay (h : r.Sized width height) {trees : List (Tree α)}
    (hjumps : ∀ tree ∈ trees, tree.BeginsWithJump) :
    (trees.foldl (fun r tree => tree.replay r) r).Sized width height ∧
      (trees.foldl (fun r tree => tree.replay r) r).picture =
        if ∀ tree ∈ trees, tree.Strokable width height then
          r.picture.map fun image => trees.foldl
            (fun image tree => image.paintAll (tree.pixels width height) tree.color) image
        else none := by
  induction trees generalizing r with
  | nil =>
    refine ⟨h, ?_⟩
    rw [if_pos nofun]
    exact Option.map_id'.symm
  | cons tree trees ih =>
    obtain ⟨hsized, hpicture⟩ := h.replay_tree (hjumps tree List.mem_cons_self)
    obtain ⟨hsized', hpicture'⟩ := ih hsized fun tree htree =>
      hjumps tree (List.mem_cons_of_mem _ htree)
    refine ⟨hsized', hpicture'.trans ?_⟩
    rw [hpicture]
    by_cases htree : tree.Strokable width height
    · simp only [List.forall_mem_cons, if_pos htree, and_iff_right htree, Option.map_map]
      rfl
    · -- without the picture of the first tree there is none later on
      have hnone : ¬ ∀ later ∈ tree :: trees, later.Strokable width height :=
        fun hall => htree (hall tree List.mem_cons_self)
      rw [if_neg htree, if_neg hnone, Option.map_none, ite_self]

end Rasterizer

/-! ### Layers -/

namespace Image

/-- Every pixel of an image of one color has this color. -/
theorem pixel?_filled (color : Color) {x y : Nat} (hx : x < width) (hy : y < height) :
    (filled width height color).pixel? x y = some color := by
  have hindex : y * width + x < width * height := by
    calc y * width + x < y * width + width := Nat.add_lt_add_left hx _
      _ = width * (y + 1) := by rw [Nat.mul_succ, Nat.mul_comm]
      _ ≤ width * height := Nat.mul_le_mul_left width hy
  rw [pixel?, filled, if_pos hx, Array.getElem?_replicate, if_pos hindex]

/-- **Layers.**  Where trees lie on each other, the last one that has a pixel is seen at it. -/
theorem pixel?_layers (trees : List (Tree α)) {image : Image} {under : Color} {x y : Nat}
    (hy : y < image.height) (hunder : image.pixel? x y = some under) :
    (trees.foldl (fun image tree => image.paintAll (tree.pixels width height) tree.color)
        image).pixel? x y =
      some ((trees.reverse.find? fun tree =>
        ((x : Int), (y : Int)) ∈ tree.pixels width height).elim under Tree.color) := by
  induction trees generalizing image under with
  | nil => exact hunder
  | cons tree trees ih =>
    -- of all that lies below the later trees, only the color under them matters
    have hpainted := pixel?_paintAll image tree.color (tree.pixels width height) (i := x) hy
    rw [hunder, Option.map_some, ← apply_ite some] at hpainted
    rw [List.foldl_cons, ih (by rwa [height_paintAll]) hpainted, List.reverse_cons,
      List.find?_append]
    cases trees.reverse.find? fun tree => ((x : Int), (y : Int)) ∈ tree.pixels width height with
    | some later => rfl
    | none =>
      -- no later tree has the pixel, so it is this one that decides
      rw [Option.none_or, List.find?_singleton]
      by_cases hmem : ((x : Int), (y : Int)) ∈ tree.pixels width height
      · rw [if_pos hmem, if_pos (decide_eq_true hmem)]
        rfl
      · rw [if_neg hmem, if_neg (by simpa using hmem)]

end Image

/-! ### Pictures -/

namespace Pattern

/-- A pattern is painted as the layers of its trees on the background, if the lines of all of them
can be stroked. -/
theorem replay_layers (pattern : Pattern α) (width height : Nat)
    (hjumps : ∀ tree ∈ pattern.trees, tree.BeginsWithJump) :
    let r : Rasterizer α := pattern.replay (Rasterizer.ofSize width height)
    r.Sized width height ∧ r.picture =
      if ∀ tree ∈ pattern.trees.toList, tree.Strokable width height then
        some (pattern.trees.toList.foldl
          (fun image tree => image.paintAll (tree.pixels width height) tree.color)
          (Image.filled width height pattern.background))
      else none := by
  have hbackground : Rasterizer.Sized width height
      (DrawSink.setBackground (Rasterizer.ofSize width height : Rasterizer α)
        pattern.background) := by
    refine ⟨?_, rfl⟩
    rintro _ ⟨⟩
    exact ⟨rfl, rfl⟩
  rw [replay, ← Array.foldl_toList]
  exact hbackground.foldl_replay fun tree htree => hjumps tree (Array.mem_toList_iff.1 htree)

/-- **Pictures.**  There is a picture of a pattern exactly if the lines of all trees can be
stroked. -/
theorem exists_rasterize?_iff (pattern : Pattern α)
    (hjumps : ∀ tree ∈ pattern.trees, tree.BeginsWithJump) :
    (∃ image, pattern.rasterize? width height = some image) ↔
      ∀ tree ∈ pattern.trees, tree.Strokable width height := by
  rw [rasterize?, (pattern.replay_layers width height hjumps).2]
  simp only [Array.mem_toList_iff, Option.ite_none_right_eq_some, exists_and_left]
  exact and_iff_left ⟨_, rfl⟩

/-- Of any pattern there is a picture whose sides are not both zero and have a sum of 32 bits. -/
theorem exists_rasterize? (pattern : Pattern α)
    (hjumps : ∀ tree ∈ pattern.trees, tree.BeginsWithJump) (hpos : 0 < width + height)
    (hsides : width + height < UInt32.size) :
    ∃ image, pattern.rasterize? width height = some image :=
  (pattern.exists_rasterize?_iff hjumps).2 fun _ _ =>
    .inr (Image.strokable_of_pos hpos hsides _)

/-- At each pixel of a picture, the last tree that has it is seen. -/
theorem pixel?_rasterize? {pattern : Pattern α}
    (hjumps : ∀ tree ∈ pattern.trees, tree.BeginsWithJump) {image : Image}
    (himage : pattern.rasterize? width height = some image) {x y : Nat} (hx : x < width)
    (hy : y < height) :
    image.pixel? x y = some ((pattern.trees.toList.reverse.find? fun tree =>
      ((x : Int), (y : Int)) ∈ tree.pixels width height).elim pattern.background Tree.color) := by
  rw [rasterize?, (pattern.replay_layers width height hjumps).2,
    Option.ite_none_right_eq_some, Option.some_inj] at himage
  obtain ⟨-, rfl⟩ := himage
  exact Image.pixel?_layers _ hy (Image.pixel?_filled _ hx hy)

end Pattern

namespace Tree

/-- The pattern that consists of one tree alone. -/
def alone (tree : Tree α) (background : Color) : Pattern α := ⟨background, [tree.color], #[tree]⟩

/-- Whether a pixel has the color of a tree in the picture of the tree alone on a background. -/
def shows (tree : Tree α) (background : Color) (width height x y : Nat) : Bool :=
  ((tree.alone background).rasterize? width height).any fun image =>
    image.pixel? x y = some tree.color

/-- On a background of another color, the pixels of a tree are those that have its color. -/
theorem shows_iff {tree : Tree α} (hjump : tree.BeginsWithJump)
    (hstrokable : tree.Strokable width height) {background : Color}
    (hcolor : background ≠ tree.color) {x y : Nat} (hx : x < width) (hy : y < height) :
    tree.shows background width height x y ↔
      ((x : Int), (y : Int)) ∈ tree.pixels width height := by
  have hjumps (other : Tree α) (hother : other ∈ (tree.alone background).trees) :
      other.BeginsWithJump := by
    rwa [Array.mem_singleton.1 hother]
  obtain ⟨image, himage⟩ := ((tree.alone background).exists_rasterize?_iff hjumps).2
    fun other hother => Array.mem_singleton.1 hother ▸ hstrokable
  rw [shows, himage, Option.any_some, decide_eq_true_iff,
    Pattern.pixel?_rasterize? hjumps himage hx hy, Option.some_inj]
  show ([tree].find? fun tree => ((x : Int), (y : Int)) ∈ tree.pixels width height).elim background
    Tree.color = tree.color ↔ _
  rw [List.find?_singleton]
  by_cases hmem : ((x : Int), (y : Int)) ∈ tree.pixels width height
  · rw [if_pos (decide_eq_true hmem)]
    exact iff_of_true rfl hmem
  · rw [if_neg (by simpa using hmem)]
    exact iff_of_false hcolor hmem

end Tree

namespace Pattern

/-- **The painter's algorithm.**  Let every tree begin with a jump, and take for every tree its
picture alone, on any background of another color.  There is a picture of all trees whenever its
sides are not both zero and have a sum of 32 bits.  It has at each pixel the color of the last tree
whose own picture has its color there, and the background where there is no such tree. -/
theorem rasterize_painter (pattern : Pattern α) (width height : Nat)
    (hjumps : ∀ tree ∈ pattern.trees, tree.BeginsWithJump) (ground : Tree α → Color)
    (hground : ∀ tree ∈ pattern.trees, ground tree ≠ tree.color) :
    (0 < width + height → width + height < UInt32.size →
      ∃ image, pattern.rasterize? width height = some image) ∧
    ∀ image, pattern.rasterize? width height = some image →
      image.width = width ∧ image.height = height ∧
      ∀ x < width, ∀ y < height, image.pixel? x y =
        some ((pattern.trees.toList.reverse.find? fun tree =>
          tree.shows (ground tree) width height x y).elim pattern.background Tree.color) := by
  refine ⟨pattern.exists_rasterize? hjumps, fun image himage => ?_⟩
  obtain ⟨hwidth, hheight⟩ :=
    (pattern.replay_layers width height hjumps).1.picture image himage
  refine ⟨hwidth, hheight, fun x hx y hy => ?_⟩
  have hstrokable := (pattern.exists_rasterize?_iff hjumps).1 ⟨image, himage⟩
  have hfind : (pattern.trees.toList.reverse.find? fun tree =>
      tree.shows (ground tree) width height x y) = pattern.trees.toList.reverse.find? fun tree =>
        ((x : Int), (y : Int)) ∈ tree.pixels width height := by
    -- what a tree shows does not depend on the background it is alone on
    refine List.find?_congr fun tree htree => ?_
    have hmem : tree ∈ pattern.trees := Array.mem_toList_iff.1 (List.mem_reverse.1 htree)
    have hshows := Tree.shows_iff (hjumps tree hmem) (hstrokable tree hmem) (hground tree hmem)
      hx hy
    exact Bool.eq_iff_iff.2 (hshows.trans decide_eq_true_iff.symm)
  rw [hfind]
  exact pixel?_rasterize? hjumps himage hx hy

/-- A red line and a green line that cross. -/
def crossing : Pattern Float where
  background := ⟨10, 20, 30⟩
  foreground := [⟨200, 0, 0⟩, ⟨0, 200, 0⟩]
  trees := #[
    ⟨⟨200, 0, 0⟩, 3, Pose.start ⟨-20, 0⟩ 0, ⟨25, 40, 0⟩,
      #[.moveTo ⟨-20, 0⟩, .lineTo ⟨20, 0⟩], 0⟩,
    ⟨⟨0, 200, 0⟩, 1, Pose.start ⟨0, -20⟩ 270, ⟨25, 40, 0⟩,
      #[.moveTo ⟨0, -20⟩, .lineTo ⟨0, 20⟩], 0⟩]

/-- The statement at two lines that cross, with the background of the pattern for each of them. -/
theorem rasterize_painter_crossing :
    (∀ tree ∈ crossing.trees, tree.BeginsWithJump) ∧
      (∀ tree ∈ crossing.trees, crossing.background ≠ tree.color) ∧
      ∃ image, crossing.rasterize? 64 48 = some image ∧
        ∀ x < 64, ∀ y < 48, image.pixel? x y =
          some ((crossing.trees.toList.reverse.find? fun tree =>
            tree.shows crossing.background 64 48 x y).elim crossing.background Tree.color) := by
  have hjumps : ∀ tree ∈ crossing.trees, tree.BeginsWithJump := by
    intro tree htree
    obtain rfl | rfl : tree = _ ∨ tree = _ := by simpa [crossing] using htree
    · exact ⟨_, _, rfl⟩
    · exact ⟨_, _, rfl⟩
  have hcolors : ∀ tree ∈ crossing.trees, crossing.background ≠ tree.color := by
    intro tree htree
    obtain rfl | rfl : tree = _ ∨ tree = _ := by simpa [crossing] using htree
    · decide
    · decide
  have hpainter := rasterize_painter crossing 64 48 hjumps (fun _ => crossing.background) hcolors
  obtain ⟨image, himage⟩ := hpainter.1 (by decide) (by decide)
  exact ⟨hjumps, hcolors, image, himage, (hpainter.2 image himage).2.2⟩

end Pattern

end Camouflage
