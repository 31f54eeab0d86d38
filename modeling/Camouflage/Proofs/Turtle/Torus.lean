/-
Camouflage/Proofs/Turtle/Torus.lean

The walk on the canvas is the walk on the plane, taken modulo the torus that the
canvas makes when its opposite edges are glued.  Numbers are exact, and the
cosine and the sine may be any functions of the heading.

Two walks are *congruent* if they have the same heading and as many saved poses
with the same headings, and if their positions, current and saved, differ by
whole canvas widths and heights.  Wrapping keeps a position in its class
(`wrap_congruent`), in either mode and also where a single fold lands off the
canvas again.  Nothing else a command does depends on where in its class a
position is, so the walks stay in lockstep: after every symbol both have failed,
or they are congruent and have used up the same random words.

The two wrap modes are never compared with each other directly.  Each is in
lockstep with the plane, and the plane is the same for both.
-/
import Mathlib.Data.List.Forall2
import Camouflage.Proofs.Number.Exact
import Camouflage.Proofs.Turtle.Plane
import Camouflage.Proofs.Turtle.Run

namespace Camouflage

variable {K σ : Type}

/-! ### One place of the torus -/

section Classes

variable [Field K]

/-- Two positions are the same place of the torus: they differ by whole canvas widths and heights. -/
structure Point.Congruent (canvas : Canvas K) (p q : Point K) : Prop where
  x : p.x ≡ q.x [PMOD 2 * canvas.halfWidth]
  y : p.y ≡ q.y [PMOD 2 * canvas.halfHeight]

/-- Two poses look the same way from the same place of the torus. -/
structure Pose.Congruent (canvas : Canvas K) (p q : Pose K) : Prop where
  position : p.position.Congruent canvas q.position
  heading : p.heading = q.heading

/-- Two walks are congruent in their poses, and in their saved poses one by one. -/
structure Walk.Congruent (canvas : Canvas K) (walk walk' : Walk K) : Prop where
  pose : walk.pose.Congruent canvas walk'.pose
  saved : List.Forall₂ (Pose.Congruent canvas) walk.saved walk'.saved

/-- Two outcomes are in lockstep: both are the same fault, or both are walks that are congruent and
leave the same random words. -/
inductive Lockstep (canvas : Canvas K) : Outcome (Walk K × σ) → Outcome (Walk K × σ) → Prop
  | failed (fault : Fault) : Lockstep canvas (.error fault) (.error fault)
  | reached {walk walk' : Walk K} (s : σ) (h : walk.Congruent canvas walk') :
      Lockstep canvas (.ok (walk, s)) (.ok (walk', s))

variable {canvas : Canvas K}

namespace Point.Congruent

variable {p q r : Point K}

theorem refl (p : Point K) : p.Congruent canvas p :=
  ⟨AddCommGroup.modEq_refl p.x, AddCommGroup.modEq_refl p.y⟩

theorem symm (h : p.Congruent canvas q) : q.Congruent canvas p :=
  ⟨h.x.symm, h.y.symm⟩

theorem trans (h : p.Congruent canvas q) (h' : q.Congruent canvas r) : p.Congruent canvas r :=
  ⟨h.x.trans h'.x, h.y.trans h'.y⟩

end Point.Congruent

namespace Pose.Congruent

variable {p q r : Pose K}

theorem refl (p : Pose K) : p.Congruent canvas p := ⟨.refl p.position, rfl⟩

theorem symm (h : p.Congruent canvas q) : q.Congruent canvas p :=
  ⟨h.position.symm, h.heading.symm⟩

theorem trans (h : p.Congruent canvas q) (h' : q.Congruent canvas r) : p.Congruent canvas r :=
  ⟨h.position.trans h'.position, h.heading.trans h'.heading⟩

end Pose.Congruent

namespace Walk.Congruent

variable {walk walk' walk'' : Walk K}

theorem symm (h : walk.Congruent canvas walk') : walk'.Congruent canvas walk := by
  refine ⟨h.pose.symm, ?_⟩
  exact List.Forall₂.flip (h.saved.imp fun _ _ hpq => hpq.symm)

theorem saved_trans {l l' l'' : List (Pose K)} (h : List.Forall₂ (Pose.Congruent canvas) l l')
    (h' : List.Forall₂ (Pose.Congruent canvas) l' l'') :
    List.Forall₂ (Pose.Congruent canvas) l l'' := by
  induction h generalizing l'' with
  | nil => exact h'
  | cons hpq _ ih =>
    cases h' with
    | cons hqr hrest => exact .cons (hpq.trans hqr) (ih hrest)

theorem trans (h : walk.Congruent canvas walk') (h' : walk'.Congruent canvas walk'') :
    walk.Congruent canvas walk'' :=
  ⟨h.pose.trans h'.pose, saved_trans h.saved h'.saved⟩

end Walk.Congruent

namespace Lockstep

variable {a b c : Outcome (Walk K × σ)}

theorem symm (h : Lockstep canvas a b) : Lockstep canvas b a := by
  cases h with
  | failed fault => exact .failed fault
  | reached s h => exact .reached s h.symm

theorem trans (h : Lockstep canvas a b) (h' : Lockstep canvas b c) : Lockstep canvas a c := by
  cases h with
  | failed fault => exact h'
  | reached s h =>
    cases h' with
    | reached _ h' => exact .reached s (h.trans h')

/-- Going on in lockstep from outcomes in lockstep. -/
theorem bind {f g : Walk K × σ → Outcome (Walk K × σ)} (h : Lockstep canvas a b)
    (hfg : ∀ {walk walk' : Walk K} (s : σ), walk.Congruent canvas walk' →
      Lockstep canvas (f (walk, s)) (g (walk', s))) : Lockstep canvas (a >>= f) (b >>= g) := by
  cases h with
  | failed fault => exact .failed fault
  | reached s h => exact hfg s h

end Lockstep

end Classes

variable [Field K] [LinearOrder K] [FloorRing K] [ToString K]

/-! ### What wrapping does to a position -/

/-- Wrapping moves a coordinate by a multiple of the extent of its axis. -/
theorem WrapMode.wrapAxis_modEq (mode : WrapMode) (v half : K) :
    mode.wrapAxis v half ≡ v [PMOD 2 * half] := by
  cases mode with
  | singleFold =>
    simp only [WrapMode.wrapAxis]
    split
    · -- past the upper edge: one extent down
      rw [AddCommGroup.modEq_iff_zsmul]
      exact ⟨1, by rw [one_zsmul]; ring⟩
    · split
      · -- past the lower edge: one extent up
        rw [AddCommGroup.modEq_iff_zsmul]
        exact ⟨-1, by rw [neg_one_zsmul]; ring⟩
      · exact AddCommGroup.modEq_refl v
  | modulo =>
    simp only [WrapMode.wrapAxis]
    split
    · exact AddCommGroup.modEq_refl v
    · have htwo : (Scalar.ofNat 2 : K) = 2 := by rw [Exact.ofNat_eq, Nat.cast_ofNat]
      rw [htwo]
      have hsub := (Exact.remainder_modEq (v + half) (2 * half)).sub_right half
      rwa [add_sub_cancel_right] at hsub

/-- A wrapped position is the same place of the torus. -/
theorem WrapMode.wrap_congruent (mode : WrapMode) (p : Point K) (canvas : Canvas K) :
    (mode.wrap p canvas).Congruent canvas p :=
  ⟨mode.wrapAxis_modEq p.x canvas.halfWidth, mode.wrapAxis_modEq p.y canvas.halfHeight⟩

/-! ### One command -/

namespace Pose.Congruent

variable {canvas : Canvas K} {p q : Pose K}

/-- Looking the same way, both get to the same place. -/
theorem ahead [Compass K] (h : p.Congruent canvas q) (length : K) :
    (p.ahead length).Congruent canvas (q.ahead length) := by
  rw [Pose.ahead, Pose.ahead, h.heading]
  exact ⟨h.position.x.add_right _, h.position.y.sub_right _⟩

/-- A turn keeps the position and changes both headings alike. -/
theorem turned (h : p.Congruent canvas q) (degrees : K) :
    (p.turned degrees).Congruent canvas (q.turned degrees) := by
  rw [Pose.turned, Pose.turned, h.heading]
  exact ⟨h.position, rfl⟩

end Pose.Congruent

variable [Compass K] [Sampling K] [RandomSource σ]

/-- A step forward, wrapped or not, stays congruent to the step on the plane. -/
theorem forward_lockstep (turtle : Turtle K) {walk walk' : Walk K} (s : σ)
    (h : walk.Congruent turtle.canvas walk') :
    Lockstep turtle.canvas (turtle.step walk .forward s)
      (Plane.step turtle.params walk' .forward s) := by
  have hahead := h.pose.ahead turtle.params.length
  refine .reached s ?_
  rw [Walk.forward]
  -- on the canvas the walk goes where the plane walk goes, beyond its edges it is wrapped
  split
  · exact ⟨⟨hahead, h.pose.heading⟩, h.saved⟩
  · have hwrapped := turtle.wrap.wrap_congruent (walk.pose.ahead turtle.params.length) turtle.canvas
    exact ⟨⟨hwrapped.trans hahead, h.pose.heading⟩, h.saved⟩

/-- **One command keeps the lockstep.**  A branch-close finds something saved in both walks or in
neither, and a turn draws the same amount for both. -/
theorem step_lockstep (turtle : Turtle K) {walk walk' : Walk K} (command : Command) (s : σ)
    (h : walk.Congruent turtle.canvas walk') :
    Lockstep turtle.canvas (turtle.step walk command s)
      (Plane.step turtle.params walk' command s) := by
  cases command with
  | forward => exact forward_lockstep turtle s h
  | turnRight => exact .reached _ ⟨h.pose.turned _, h.saved⟩
  | turnLeft => exact .reached _ ⟨h.pose.turned _, h.saved⟩
  | branchOpen => exact .reached s ⟨h.pose, .cons h.pose h.saved⟩
  | branchClose =>
    obtain ⟨pose, saved, events, wraps⟩ := walk
    obtain ⟨pose', saved', events', wraps'⟩ := walk'
    -- the stacks are equally high, and what is on top of them was congruent when it was saved
    cases h.saved with
    | nil => exact .failed _
    | cons hpose hsaved => exact .reached s ⟨⟨hpose.position, hpose.heading⟩, hsaved⟩

/-! ### Whole runs -/

/-- A run over any word keeps the lockstep. -/
theorem run_lockstep (turtle : Turtle K) (symbols : Word) {walk walk' : Walk K} (s : σ)
    (h : walk.Congruent turtle.canvas walk') :
    Lockstep turtle.canvas (turtle.run symbols walk s)
      (Plane.run turtle.params symbols walk' s) := by
  induction symbols generalizing walk walk' s with
  | nil => exact .reached s h
  | cons symbol rest ih =>
    cases hsymbol : Command.ofSymbol? symbol with
    | none =>
      rw [Turtle.run_cons_of_none turtle hsymbol, Plane.run_cons_of_none turtle.params hsymbol]
      exact ih s h
    | some command =>
      rw [Turtle.run_cons_of_some turtle hsymbol, Plane.run_cons_of_some turtle.params hsymbol]
      exact (step_lockstep turtle command s h).bind ih

/-- Drawing is in lockstep with drawing on the plane: both begin at the same pose. -/
theorem draw_lockstep (turtle : Turtle K) (symbols : Word) (pose : Pose K) (s : σ) :
    Lockstep turtle.canvas (turtle.draw symbols pose s)
      (Plane.draw turtle.params symbols pose s) :=
  run_lockstep turtle symbols s ⟨.refl pose, .nil⟩

/-- **The canvas is the plane modulo the torus.**  After every symbol, drawing on the canvas is in
lockstep with drawing on the plane, whatever the parameters, the canvas, the wrap mode, the start,
the random words and the word drawn; and so are the two wrap modes with each other. -/
theorem draw_congruent_plane (params : DrawParams K) (canvas : Canvas K) (pose : Pose K)
    (symbols : Word) (s : σ) (n : ℕ) :
    (∀ mode : WrapMode,
      Lockstep canvas (Turtle.draw ⟨params, canvas, mode⟩ (symbols.take n) pose s)
        (Plane.draw params (symbols.take n) pose s)) ∧
    Lockstep canvas (Turtle.draw ⟨params, canvas, .singleFold⟩ (symbols.take n) pose s)
      (Turtle.draw ⟨params, canvas, .modulo⟩ (symbols.take n) pose s) := by
  have hplane : ∀ mode : WrapMode,
      Lockstep canvas (Turtle.draw ⟨params, canvas, mode⟩ (symbols.take n) pose s)
        (Plane.draw params (symbols.take n) pose s) :=
    fun mode => draw_lockstep ⟨params, canvas, mode⟩ (symbols.take n) pose s
  exact ⟨hplane, (hplane .singleFold).trans (hplane .modulo).symm⟩

end Camouflage
