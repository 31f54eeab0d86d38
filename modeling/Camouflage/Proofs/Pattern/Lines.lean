/-
Camouflage/Proofs/Pattern/Lines.lean

The lines of a tree.  A line is kept with its end only; it begins wherever the
movement before it leads (`PathEvent.drawn`).  What comes before the first
movement would matter to a tree that begins with a line, but no tree does: each
begins with a jump, and then its lines are its own (`drawn_eq_lines`).
-/
import Camouflage.Pattern.Generation

namespace Camouflage

variable {α : Type}

/-- A line as a pen draws it: from where the pen is, if it is anywhere, to a position. -/
structure PenLine (α : Type) where
  source : Option (Point α)
  target : Point α

/-- The lines among movements that begin with the pen at `cursor`. -/
def PathEvent.drawn (cursor : Option (Point α)) : List (PathEvent α) → List (PenLine α)
  | [] => []
  | .moveTo p :: events => drawn (some p) events
  | .lineTo p :: events => ⟨cursor, p⟩ :: drawn (some p) events

namespace Tree

variable (tree : Tree α)

/-- The lines of a tree. -/
def lines : List (PenLine α) := PathEvent.drawn none tree.events.toList

/-- The first movement of a tree is a jump. -/
def BeginsWithJump : Prop := ∃ p rest, tree.events.toList = .moveTo p :: rest

variable {tree}

/-- Behind a jump it makes no difference where the pen was. -/
theorem BeginsWithJump.drawn_eq_lines (h : tree.BeginsWithJump) (cursor : Option (Point α)) :
    PathEvent.drawn cursor tree.events.toList = tree.lines := by
  obtain ⟨p, rest, hevents⟩ := h
  rw [lines, hevents]
  rfl

end Tree

end Camouflage
