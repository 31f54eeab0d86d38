/-
Camouflage/Proofs/Turtle/Staying.lean

The turtle stays on the canvas.  Numbers are exact, and the cosine and the sine
may be any functions of the heading with values from -1 to 1.

What a walk keeps is that its pose is on the canvas with the pen down, that the
saved poses are on it as well, and that every jump went to the canvas
(`Walk.OnCanvas`).  The pen belongs to this: a step off the canvas ends where a
line may end and a jump may not.

A step from the canvas gets at most its own length past an edge in each direction.
The remainder brings it back from everywhere, a single fold from three half
extents, which are within the reach of steps up to the extent of the canvas in
both directions (`wrap_contains`).  All else that a command does is to turn on the
spot, or to save a pose and to jump to it.
-/
import Camouflage.Proofs.Number.Reals
import Camouflage.Proofs.Turtle.BranchStack
import Camouflage.Proofs.Turtle.Wrapping
import Camouflage.Random.ChaCha

namespace Camouflage

variable {K σ : Type} [Field K] [LinearOrder K] [FloorRing K] [ToString K]

/-! ### Walks on the canvas -/

/-- A pose on the canvas, its heading within one turn. -/
structure Pose.OnCanvas (canvas : Canvas K) (pose : Pose K) : Prop where
  contained : canvas.contains pose.position = true
  nonneg : 0 ≤ pose.heading
  lt : pose.heading < 360

/-- Every jump went to the canvas.  A line may well end beside it. -/
def JumpsOnCanvas (canvas : Canvas K) (events : Array (PathEvent K)) : Prop :=
  ∀ p, .moveTo p ∈ events → canvas.contains p = true

/-- A walk that has not jumped off the canvas, and is not going to. -/
structure Walk.OnCanvas (canvas : Canvas K) (walk : Walk K) : Prop where
  pose : walk.pose.OnCanvas canvas
  penDown : walk.pose.penDown = true
  saved : ∀ pose ∈ walk.saved, pose.OnCanvas canvas
  jumps : JumpsOnCanvas canvas walk.events

theorem Canvas.contains_iff {canvas : Canvas K} {p : Point K} :
    canvas.contains p = true ↔ |p.x| ≤ canvas.halfWidth ∧ |p.y| ≤ canvas.halfHeight := by
  rw [Canvas.contains, Bool.and_eq_true]
  exact and_congr decide_eq_true_iff decide_eq_true_iff

namespace JumpsOnCanvas

variable {canvas : Canvas K} {events : Array (PathEvent K)} (h : JumpsOnCanvas canvas events)
include h

theorem pushLine (p : Point K) : JumpsOnCanvas canvas (events.push (.lineTo p)) := by
  intro q hq
  rcases Array.mem_push.1 hq with hbefore | hline
  · exact h q hbefore
  · cases hline

theorem pushJump {p : Point K} (hp : canvas.contains p = true) :
    JumpsOnCanvas canvas (events.push (.moveTo p)) := by
  intro q hq
  rcases Array.mem_push.1 hq with hbefore | hjump
  · exact h q hbefore
  · cases hjump
    exact hp

end JumpsOnCanvas

variable [IsStrictOrderedRing K]

/-! ### Headings -/

/-- An exact remainder is never as large as its divisor. -/
theorem normalizeHeading_eq (degrees : K) :
    normalizeHeading degrees = Scalar.remainder degrees 360 := by
  have hturn : (Scalar.ofNat 360 : K) = 360 := by rw [Exact.ofNat_eq, Nat.cast_ofNat]
  have hlt : Scalar.remainder degrees (360 : K) < 360 := Exact.remainder_lt degrees (by norm_num)
  have hbelow : Scalar.atMost (360 : K) (Scalar.remainder degrees 360) = false :=
    decide_eq_false hlt.not_ge
  simp [normalizeHeading, hturn, hbelow]

theorem normalizeHeading_mem (degrees : K) : normalizeHeading degrees ∈ Set.Ico (0 : K) 360 := by
  have hturn : (0 : K) < 360 := by norm_num
  rw [normalizeHeading_eq]
  exact ⟨Exact.remainder_nonneg degrees hturn, Exact.remainder_lt degrees hturn⟩

/-- A position on the canvas is the position of a pose, whatever the heading. -/
theorem onCanvas_normalizeHeading {canvas : Canvas K} {p : Point K}
    (h : canvas.contains p = true) (degrees : K) (penDown : Bool) :
    Pose.OnCanvas canvas ⟨p, normalizeHeading degrees, penDown⟩ where
  contained := h
  nonneg := (normalizeHeading_mem degrees).1
  lt := (normalizeHeading_mem degrees).2

/-! ### Steps forward -/

/-- Within the reach of its wrap mode a position is brought back to the canvas. -/
theorem WrapMode.wrap_contains (mode : WrapMode) {canvas : Canvas K} (hwidth : 0 < canvas.halfWidth)
    (hheight : 0 < canvas.halfHeight) {p : Point K}
    (h : mode = .singleFold → |p.x| ≤ 3 * canvas.halfWidth ∧ |p.y| ≤ 3 * canvas.halfHeight) :
    canvas.contains (mode.wrap p canvas) = true := by
  rw [Canvas.contains_iff]
  cases mode with
  | singleFold =>
    obtain ⟨hx, hy⟩ := h rfl
    exact ⟨(abs_singleFold_le_iff hwidth p.x).2 hx, (abs_singleFold_le_iff hheight p.y).2 hy⟩
  | modulo => exact ⟨abs_modulo_le hwidth p.x, abs_modulo_le hheight p.y⟩

variable [Compass K]

/-- A step is at most its length long, in each direction. -/
theorem Pose.ahead_within (hcompass : ∀ h : K, |Compass.cosine h| ≤ 1 ∧ |Compass.sine h| ≤ 1)
    (pose : Pose K) (length : K) :
    |(pose.ahead length).x| ≤ |pose.position.x| + |length| ∧
      |(pose.ahead length).y| ≤ |pose.position.y| + |length| := by
  obtain ⟨hcosine, hsine⟩ := hcompass pose.heading
  have hshorten {c : K} (hc : |c| ≤ 1) : |length * c| ≤ |length| := by
    rw [abs_mul]
    exact mul_le_of_le_one_right (abs_nonneg length) hc
  constructor
  · calc |pose.position.x + length * Compass.cosine pose.heading|
        ≤ |pose.position.x| + |length * Compass.cosine pose.heading| := abs_add_le _ _
      _ ≤ |pose.position.x| + |length| := add_le_add_right (hshorten hcosine) _
  · calc |pose.position.y - length * Compass.sine pose.heading|
        ≤ |pose.position.y| + |length * Compass.sine pose.heading| := abs_sub _ _
      _ ≤ |pose.position.y| + |length| := add_le_add_right (hshorten hsine) _

namespace Turtle

variable {turtle : Turtle K}

section Steps

variable (hcompass : ∀ h : K, |Compass.cosine h| ≤ 1 ∧ |Compass.sine h| ≤ 1)
  (hwidth : 0 < turtle.canvas.halfWidth) (hheight : 0 < turtle.canvas.halfHeight)
  (hlength : turtle.wrap = .singleFold →
    |turtle.params.length| ≤ 2 * turtle.canvas.halfWidth ∧
      |turtle.params.length| ≤ 2 * turtle.canvas.halfHeight)
include hcompass hwidth hheight hlength

/-- A step off the canvas comes in again. -/
theorem wrap_ahead_contains {pose : Pose K} (h : turtle.canvas.contains pose.position = true) :
    turtle.canvas.contains
      (turtle.wrap.wrap (pose.ahead turtle.params.length) turtle.canvas) = true := by
  obtain ⟨hx, hy⟩ := Canvas.contains_iff.1 h
  obtain ⟨haheadX, haheadY⟩ := pose.ahead_within hcompass turtle.params.length
  refine turtle.wrap.wrap_contains hwidth hheight fun hfold => ?_
  obtain ⟨hlengthX, hlengthY⟩ := hlength hfold
  constructor
  · linarith
  · linarith

theorem forward_onCanvas {walk : Walk K} (h : walk.OnCanvas turtle.canvas) :
    (walk.forward turtle).OnCanvas turtle.canvas := by
  obtain ⟨⟨position, heading, penDown⟩, saved, events, wraps⟩ := walk
  obtain rfl : penDown = true := h.penDown
  rw [Walk.forward]
  -- with the pen down the step itself is a line, wherever it ends
  split
  · next hinside =>
    exact ⟨⟨hinside, h.pose.nonneg, h.pose.lt⟩, rfl, h.saved, h.jumps.pushLine _⟩
  · have hback := wrap_ahead_contains hcompass hwidth hheight hlength h.pose.contained
    exact ⟨⟨hback, h.pose.nonneg, h.pose.lt⟩, rfl, h.saved, (h.jumps.pushLine _).pushJump hback⟩

variable [Sampling K] [RandomSource σ]

/-- **One step.**  A command does not lead off the canvas. -/
theorem Moves.onCanvas {walk walk' : Walk K} {command : Command} {s s' : σ}
    (hmoves : turtle.Moves walk s command walk' s') (h : walk.OnCanvas turtle.canvas) :
    walk'.OnCanvas turtle.canvas := by
  cases hmoves with
  | forward => exact forward_onCanvas hcompass hwidth hheight hlength h
  | turnRight =>
    exact ⟨onCanvas_normalizeHeading h.pose.contained _ _, h.penDown, h.saved, h.jumps⟩
  | turnLeft =>
    exact ⟨onCanvas_normalizeHeading h.pose.contained _ _, h.penDown, h.saved, h.jumps⟩
  | branchOpen => exact ⟨h.pose, h.penDown, List.forall_mem_cons.2 ⟨h.pose, h.saved⟩, h.jumps⟩
  | @branchClose pose saved hsaved =>
    obtain ⟨htop, hrest⟩ := List.forall_mem_cons.1 (hsaved ▸ h.saved)
    exact ⟨⟨htop.contained, htop.nonneg, htop.lt⟩, rfl, hrest, h.jumps.pushJump htop.contained⟩

/-- **Whole runs.**  A run from the canvas ends on it. -/
theorem run_onCanvas {word : Word} {walk walk' : Walk K} {s s' : σ}
    (hrun : turtle.run word walk s = .ok (walk', s')) (h : walk.OnCanvas turtle.canvas) :
    walk'.OnCanvas turtle.canvas := by
  refine turtle.run_induction (motive := fun _ walk _ =>
    walk.OnCanvas turtle.canvas → walk'.OnCanvas turtle.canvas) id ?_ ?_ hrun h
  · intro symbol word walk s hsymbol ih
    exact ih
  · intro command word walk walk₁ s s₁ hmoves ih hwalk
    exact ih (hmoves.onCanvas hcompass hwidth hheight hlength hwalk)

end Steps

/-- **The turtle stays on the canvas.**  After every symbol of a word that is drawn from a position
on the canvas, the turtle is on the canvas, so are the saved poses, and no jump has left it; all
headings are from 0 on and below 360.  With the remainder this is so for steps of every length, with
a single fold for steps up to the width and the height of the canvas. -/
theorem draw_onCanvas [Sampling K] [RandomSource σ] (turtle : Turtle K)
    (hcompass : ∀ h : K, |Compass.cosine h| ≤ 1 ∧ |Compass.sine h| ≤ 1)
    (hwidth : 0 < turtle.canvas.halfWidth) (hheight : 0 < turtle.canvas.halfHeight)
    (hlength : turtle.wrap = .singleFold →
      |turtle.params.length| ≤ 2 * turtle.canvas.halfWidth ∧
        |turtle.params.length| ≤ 2 * turtle.canvas.halfHeight)
    {position : Point K} (hstart : turtle.canvas.contains position = true) (heading : K)
    (symbols : Word) (n : ℕ) {s s' : σ} {walk : Walk K}
    (hdraw : turtle.draw (symbols.take n) (.start position heading) s = .ok (walk, s')) :
    walk.OnCanvas turtle.canvas := by
  refine run_onCanvas hcompass hwidth hheight hlength hdraw ?_
  refine ⟨onCanvas_normalizeHeading hstart heading true, rfl, fun pose hpose => ?_, fun p hp => ?_⟩
  · cases hpose
  · cases Array.mem_singleton.1 hp
    exact hstart

open Exact in
/-- The statement at a turtle whose steps are as long as its canvas is wide and high.  It starts in
a corner, and is looked at inside a branch. -/
theorem draw_onCanvas_corner :
    let turtle : Turtle ℝ := ⟨⟨45, 4, 10⟩, ⟨2, 2⟩, .singleFold⟩
    (∀ h : ℝ, |Compass.cosine h| ≤ 1 ∧ |Compass.sine h| ≤ 1) ∧
    0 < turtle.canvas.halfWidth ∧ 0 < turtle.canvas.halfHeight ∧
    (turtle.wrap = .singleFold →
      |turtle.params.length| ≤ 2 * turtle.canvas.halfWidth ∧
        |turtle.params.length| ≤ 2 * turtle.canvas.halfHeight) ∧
    turtle.canvas.contains ⟨2, -2⟩ = true ∧
    ∃ walk s', turtle.draw ("F+F[-F]F".toList.take 6) (.start ⟨2, -2⟩ (-90)) (Keystream.ofSeed 5)
        = .ok (walk, s') ∧
      walk.saved.length = 1 ∧ walk.OnCanvas turtle.canvas := by
  intro turtle
  have hcompass (h : ℝ) : |Compass.cosine h| ≤ 1 ∧ |Compass.sine h| ≤ 1 :=
    ⟨abs_cosine_le_one h, abs_sine_le_one h⟩
  have htwo : (0 : ℝ) < 2 := by norm_num
  have hlength : |(4 : ℝ)| ≤ 2 * 2 := by norm_num
  have hcorner : turtle.canvas.contains ⟨2, -2⟩ = true :=
    Canvas.contains_iff.2 ⟨(abs_of_pos htwo).le, (abs_neg (2 : ℝ)).trans_le (abs_of_pos htwo).le⟩
  have hword : checkBranches ("F+F[-F]F".toList.take 6) = .error (.grammar (.unclosedOpens 1)) := by
    rfl
  obtain ⟨walk, s', hdraw, hsaved⟩ :=
    turtle.exists_draw_of_unclosed hword (.start ⟨2, -2⟩ (-90)) (Keystream.ofSeed 5)
  have hwalk := draw_onCanvas turtle hcompass htwo htwo (fun _ => ⟨hlength, hlength⟩) hcorner (-90)
    "F+F[-F]F".toList 6 hdraw
  exact ⟨hcompass, htwo, htwo, fun _ => ⟨hlength, hlength⟩, hcorner, walk, s', hdraw, hsaved, hwalk⟩

end Turtle

end Camouflage
