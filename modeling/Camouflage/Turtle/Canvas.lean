/-
Camouflage/Turtle/Canvas.lean

The canvas and its edges.  The canvas is a rectangle around the origin, given
by its half extents; y points up.  Its edges are glued to the opposite ones: a
position past an edge comes in again on the other side, moved by a multiple of
the canvas size.  The two wrap modes differ in how far out they still reach the
canvas.
-/
import Camouflage.Number.Scalar

namespace Camouflage

/-- A position. -/
structure Point (α : Type) where
  x : α
  y : α
deriving DecidableEq, Inhabited

/-- The drawing area, `2 · halfWidth` by `2 · halfHeight` around the origin. -/
structure Canvas (α : Type) where
  halfWidth : α
  halfHeight : α
deriving DecidableEq

/-- How a position past an edge comes in again. -/
inductive WrapMode
  /-- moved once by the canvas size, which is enough up to one canvas size past the edge -/
  | singleFold
  /-- the remainder, for any distance -/
  | modulo
deriving DecidableEq, Inhabited

variable {α : Type} [Scalar α]

namespace Canvas

/-- The canvas of a width and a height. -/
def ofSize (width height : Nat) : Canvas α :=
  ⟨Scalar.half (Scalar.ofNat width), Scalar.half (Scalar.ofNat height)⟩

/-- Whether a position is on the canvas, its edges included. -/
def contains (canvas : Canvas α) (p : Point α) : Bool :=
  Scalar.atMost (Scalar.abs p.x) canvas.halfWidth &&
    Scalar.atMost (Scalar.abs p.y) canvas.halfHeight

end Canvas

namespace WrapMode

/-- Wraps one coordinate on an axis of a half extent. -/
def wrapAxis (mode : WrapMode) (v half : α) : α :=
  match mode with
  | singleFold =>
    if Scalar.less half v then -half + (v - half)
    else if Scalar.less v (-half) then half + (v + half)
    else v
  | modulo =>
    if Scalar.atMost (Scalar.abs v) half then v
    else Scalar.remainder (v + half) (Scalar.ofNat 2 * half) - half

/-- Wraps a position, each coordinate by itself. -/
def wrap (mode : WrapMode) (p : Point α) (canvas : Canvas α) : Point α :=
  ⟨mode.wrapAxis p.x canvas.halfWidth, mode.wrapAxis p.y canvas.halfHeight⟩

end WrapMode

end Camouflage
