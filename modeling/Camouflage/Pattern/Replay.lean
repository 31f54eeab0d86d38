/-
Camouflage/Pattern/Replay.lean

Handing a pattern on.  A sink takes a background, moves and lines; `replay`
tells it the background first and then every movement of every tree in order,
each line with the color and the thickness of its own tree.

A recording is the sink that keeps everything it was told.
-/
import Camouflage.Pattern.Generation

namespace Camouflage

/-- What takes a finished pattern. -/
class DrawSink (α : outParam Type) (ς : Type) where
  setBackground : ς → Color → ς
  /-- goes to a position with the pen up -/
  moveTo : ς → Point α → ς
  /-- draws a line from the previous position -/
  lineTo : ς → Point α → Color → Nat → ς

variable {α : Type}

/-- One movement of a tree, told to a sink. -/
def Tree.tell {ς : Type} [DrawSink α ς] (tree : Tree α) (sink : ς) : PathEvent α → ς
  | .moveTo p => DrawSink.moveTo sink p
  | .lineTo p => DrawSink.lineTo sink p tree.color tree.thickness

/-- All movements of a tree, told to a sink. -/
def Tree.replay {ς : Type} [DrawSink α ς] (tree : Tree α) (sink : ς) : ς :=
  tree.events.foldl tree.tell sink

/-- The whole pattern, told to a sink. -/
def Pattern.replay {ς : Type} [DrawSink α ς] (pattern : Pattern α) (sink : ς) : ς :=
  pattern.trees.foldl (fun sink tree => tree.replay sink)
    (DrawSink.setBackground sink pattern.background)

/-! ### Recordings -/

/-- What a sink was told. -/
inductive DrawEvent (α : Type)
  | setBackground (color : Color)
  | moveTo (p : Point α)
  | lineTo (p : Point α) (color : Color) (thickness : Nat)
deriving DecidableEq

/-- A sink that keeps every event. -/
structure Recording (α : Type) where
  events : Array (DrawEvent α) := #[]

instance : DrawSink α (Recording α) where
  setBackground r color := ⟨r.events.push (.setBackground color)⟩
  moveTo r p := ⟨r.events.push (.moveTo p)⟩
  lineTo r p color thickness := ⟨r.events.push (.lineTo p color thickness)⟩

/-- The events of a pattern. -/
def Pattern.record (pattern : Pattern α) : Recording α := pattern.replay {}

/-! ### Statistics -/

/-- How much there is in a pattern. -/
structure PatternStats where
  trees : Nat
  segments : Nat
  wraps : Nat
deriving DecidableEq

/-- The number of lines of a tree. -/
def Tree.segments (tree : Tree α) : Nat := PathEvent.countLines tree.events

/-- The number of trees, and of lines and wraps of all trees. -/
def Pattern.stats (pattern : Pattern α) : PatternStats where
  trees := pattern.trees.size
  segments := pattern.trees.foldl (fun n tree => n + tree.segments) 0
  wraps := pattern.trees.foldl (fun n tree => n + tree.wraps) 0

end Camouflage
