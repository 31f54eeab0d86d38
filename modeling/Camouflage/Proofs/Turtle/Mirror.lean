/-
Camouflage/Proofs/Turtle/Mirror.lean

A negative angle mirrors the turns.  Without deviation, a turtle with the opposite
angle draws a word as the turtle itself draws the word with right and left turns
exchanged (`draw_neg_angle`).  It is not only the same picture: all movements, the
saved poses, the wraps and the stream are the same, and so are the words that
cannot be drawn.

Only a turn looks at the angle.  One turtle turns right by the opposite amount, the
other one turns left by the amount, and to turn left is to turn right by the opposite
(`step_opposite`).  This takes that the amounts are opposite, hence that there is no
jitter; the random word of a turn is used up on both sides all the same.
-/
import Mathlib.Logic.Equiv.Basic
import Camouflage.Proofs.Number.Reals
import Camouflage.Proofs.Turtle.Run

namespace Camouflage

/-! ### Exchanging right and left -/

/-- The command with right and left exchanged. -/
def Command.mirrored : Command → Command
  | turnRight => turnLeft
  | turnLeft => turnRight
  | command => command

/-- The word with right and left turns exchanged. -/
def mirrored (word : Word) : Word := word.map (Equiv.swap '+' '-')

theorem mirrored_cons (symbol : Char) (word : Word) :
    mirrored (symbol :: word) = Equiv.swap '+' '-' symbol :: mirrored word := rfl

/-- Exchanging the symbols of the turns exchanges the turns, and no other command. -/
theorem Command.ofSymbol?_swap (symbol : Char) :
    ofSymbol? (Equiv.swap '+' '-' symbol) = (ofSymbol? symbol).map mirrored := by
  cases h : ofSymbol? symbol with
  | none =>
    have hplus : symbol ≠ '+' := ne_symbol_of_none h .turnRight
    have hminus : symbol ≠ '-' := ne_symbol_of_none h .turnLeft
    rw [Equiv.swap_apply_of_ne_of_ne hplus hminus, h]
    rfl
  | some command =>
    obtain rfl := ofSymbol?_eq_some_iff.1 h
    cases command with
    | forward => rfl
    | turnRight => rfl
    | turnLeft => rfl
    | branchOpen => rfl
    | branchClose => rfl

variable {K σ : Type} [Field K] [LinearOrder K] [FloorRing K] [ToString K] [RandomSource σ]

/-! ### The opposite turtle -/

/-- The turtle with the opposite angle. -/
def Turtle.opposite (turtle : Turtle K) : Turtle K :=
  { turtle with params := { turtle.params with angle := -turtle.params.angle } }

namespace Turtle

section Runs

variable [Sampling K] {turtle : Turtle K}
  (hjitter : ∀ s : σ, (Random.jitter turtle.params.deviation s).1 = 0)
include hjitter

/-- Without jitter the opposite turtle turns by the opposite amounts. -/
theorem turnAmount_opposite (s : σ) :
    turtle.opposite.turnAmount s = (-(turtle.turnAmount s).1, (turtle.turnAmount s).2) := by
  have hamount : -turtle.params.angle + (Random.jitter turtle.params.deviation s).1
      = -(turtle.params.angle + (Random.jitter turtle.params.deviation s).1) := by
    rw [hjitter, add_zero, add_zero]
  exact Prod.ext hamount rfl

variable [Compass K]

/-- **One step.**  The opposite turtle carries out a command as the turtle does the mirrored one. -/
theorem step_opposite (walk : Walk K) (command : Command) (s : σ) :
    turtle.opposite.step walk command s = turtle.step walk command.mirrored s := by
  cases command with
  | forward => rfl
  | turnRight =>
    show Except.ok ({ walk with pose := walk.pose.turned (turtle.opposite.turnAmount s).1 },
      (turtle.opposite.turnAmount s).2) = _
    rw [turnAmount_opposite hjitter]
    rfl
  | turnLeft =>
    show Except.ok ({ walk with pose := walk.pose.turned (-(turtle.opposite.turnAmount s).1) },
      (turtle.opposite.turnAmount s).2) = _
    rw [turnAmount_opposite hjitter, neg_neg]
    rfl
  | branchOpen => rfl
  | branchClose => rfl

/-- **Whole runs.**  The opposite turtle runs through a word as the turtle does through the mirrored
one. -/
theorem run_opposite (word : Word) (walk : Walk K) (s : σ) :
    turtle.opposite.run word walk s = turtle.run (mirrored word) walk s := by
  induction word generalizing walk s with
  | nil => rfl
  | cons symbol word ih =>
    have hswap := Command.ofSymbol?_swap symbol
    rw [mirrored_cons]
    cases h : Command.ofSymbol? symbol with
    | none =>
      rw [h, Option.map_none] at hswap
      rw [run_cons_of_none turtle.opposite h, run_cons_of_none turtle hswap]
      exact ih walk s
    | some command =>
      rw [h, Option.map_some] at hswap
      rw [run_cons_of_some turtle.opposite h, run_cons_of_some turtle hswap,
        step_opposite hjitter]
      exact congrArg _ (funext fun p => ih p.1 p.2)

end Runs

end Turtle

/-! ### Exact draws -/

namespace Exact

/-- There is nothing to be drawn between zero and zero. -/
theorem jitter_zero (s : σ) : (Random.jitter (0 : K) s).1 = 0 := by
  have hwidth : |(0 : K)| = 0 := by rw [abs, neg_zero, max_self]
  show unitFraction _ * ((|(0 : K)| - -|0|) / largestFraction) + -|0| = 0
  rw [hwidth, neg_zero, sub_zero, zero_div, mul_zero, add_zero]

end Exact

open Exact in
/-- **A negative angle mirrors the turns.**  Without deviation, a word is drawn with the opposite
angle as its mirrored word is with the angle, from every pose, with every stream, on every canvas, in
both wrap modes and with steps of every length: the walks are the same and leave the stream at the
same place, or neither word can be drawn. -/
theorem Turtle.draw_neg_angle [Compass K] (angle length : K) (canvas : Canvas K) (mode : WrapMode)
    (symbols : Word) (pose : Pose K) (s : σ) :
    Turtle.draw ⟨⟨-angle, length, 0⟩, canvas, mode⟩ symbols pose s
      = Turtle.draw ⟨⟨angle, length, 0⟩, canvas, mode⟩ (mirrored symbols) pose s := by
  have hopposite : (⟨⟨-angle, length, 0⟩, canvas, mode⟩ : Turtle K)
      = opposite ⟨⟨angle, length, 0⟩, canvas, mode⟩ := rfl
  rw [hopposite]
  exact run_opposite jitter_zero symbols (Walk.begin pose) s

end Camouflage
