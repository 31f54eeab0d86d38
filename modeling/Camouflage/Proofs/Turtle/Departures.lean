/-
Camouflage/Proofs/Turtle/Departures.lean

Lines and the steps they come from.  A walk keeps movements only, and a line among
them begins wherever the movement before it leads (`PathEvent.drawn`).  The turtle,
for its part, departs on each step from a pose that no movement mentions
(`Turtle.departures`).

The two agree (`drawn_draw`): as many lines as steps, each from the position the
turtle departs from to the one ahead of it.  This is because the last movement
always leads to where the turtle is, also behind a wrap and behind a close, which
jump there for this very reason.
-/
import Camouflage.Proofs.Pattern.Lines
import Camouflage.Proofs.Turtle.Movements

namespace Camouflage

namespace Turtle

variable {α σ : Type} [RandomSource σ] [Scalar α] [Compass α] [Sampling α]

/-! ### Departures -/

/-- The poses in which a run departs on its steps forward, in order. -/
def departures (turtle : Turtle α) : Word → Walk α → σ → List (Pose α)
  | [], _, _ => []
  | symbol :: rest, walk, s =>
    match Command.ofSymbol? symbol with
    | none => departures turtle rest walk s
    | some command =>
      match turtle.step walk command s with
      | .error _ => []
      | .ok (walk', s') =>
        let later := departures turtle rest walk' s'
        if command = .forward then walk.pose :: later else later

/-- The line of a step that departs in a pose. -/
def stepLine (turtle : Turtle α) (pose : Pose α) : PenLine α :=
  ⟨some pose.position, pose.ahead turtle.params.length⟩

variable {turtle : Turtle α}

theorem departures_cons_of_none {symbol : Char} (h : Command.ofSymbol? symbol = none)
    (word : Word) (walk : Walk α) (s : σ) :
    turtle.departures (symbol :: word) walk s = turtle.departures word walk s := by
  rw [departures, h]

theorem departures_of_moves {walk walk' : Walk α} {command : Command} {s s' : σ}
    (h : turtle.Moves walk s command walk' s') (word : Word) :
    turtle.departures (command.symbol :: word) walk s =
      if command = .forward then walk.pose :: turtle.departures word walk' s'
      else turtle.departures word walk' s' := by
  rw [departures, Command.ofSymbol?_eq_some_iff.2 rfl]
  dsimp only
  rw [turtle.step_of_moves h]

/-! ### Lines of a walk -/

omit [Sampling α] in
/-- **One step.**  Drawn from where the turtle is, what a command adds is the line of its step, if
it is one, and what follows is drawn from where it takes the turtle. -/
theorem Adds.drawn {pose : Pose α} {command : Command} {added : List (PathEvent α)}
    {position : Point α} {wraps : Nat} (h : turtle.Adds pose command added position wraps)
    (events : List (PathEvent α)) :
    PathEvent.drawn (some pose.position) (added ++ events) =
      if command = .forward then turtle.stepLine pose :: PathEvent.drawn (some position) events
      else PathEvent.drawn (some position) events := by
  cases h with
  | stepped => rfl
  | wrapped inside => rfl
  | restored position => rfl
  | still hforward hclose => rw [if_neg hforward, List.nil_append]

/-- **Whole runs.**  The lines among what a run adds are those of its steps. -/
theorem exists_drawn_run {word : Word} {walk walk' : Walk α} {s s' : σ}
    (h : turtle.run word walk s = .ok (walk', s')) (hpen : walk.pose.penDown = true) :
    ∃ added wraps, walk'.events.toList = walk.events.toList ++ added ∧
      walk'.wraps = walk.wraps + wraps ∧
      PathEvent.drawn (some walk.pose.position) added
        = (turtle.departures word walk s).map turtle.stepLine := by
  refine run_added_induction (motive := fun word walk s added _ =>
    PathEvent.drawn (some walk.pose.position) added
      = (turtle.departures word walk s).map turtle.stepLine) rfl ?_ ?_ h hpen
  · intro symbol word walk s added wraps hsymbol ih
    rw [departures_cons_of_none hsymbol]
    exact ih
  · intro command word walk walk₁ s s₁ front back n m hmoves hadds ih
    rw [hadds.drawn, ih, departures_of_moves hmoves]
    split
    · rfl
    · rfl

/-- **Lines and steps.**  The lines of a walk are the steps of the turtle before any wrapping, each
from where it departs, whatever the pen may have been left at before. -/
theorem drawn_draw {symbols : Word} {pose : Pose α} {walk : Walk α} {s s' : σ}
    (h : turtle.draw symbols pose s = .ok (walk, s')) (hpen : pose.penDown = true)
    (cursor : Option (Point α)) :
    PathEvent.drawn cursor walk.events.toList
      = (turtle.departures symbols (Walk.begin pose) s).map turtle.stepLine := by
  obtain ⟨added, _, hevents, -, hdrawn⟩ := exists_drawn_run h hpen
  rw [hevents]
  exact hdrawn

end Turtle

end Camouflage
