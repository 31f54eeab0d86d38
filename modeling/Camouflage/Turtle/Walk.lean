/-
Camouflage/Turtle/Walk.lean

The walk of the turtle.  A walk is a pose, the poses saved by open branches and
the pen movements so far.  `Turtle.step` carries out one command; the only
command that can fail is a branch-close with nothing saved.  `Turtle.draw` runs
through the symbols of a word, and its first event is a jump to the start.

Heading 0 points along the x axis, and headings grow clockwise because y points
up; a turn to the right adds to the heading.  Random words are used by turns
only, one for each.
-/
import Camouflage.Fault
import Camouflage.Random.Source
import Camouflage.Turtle.Canvas
import Camouflage.Turtle.Command

namespace Camouflage

variable {α : Type}

/-- A pen movement. -/
inductive PathEvent (α : Type)
  /-- a jump with the pen up -/
  | moveTo (p : Point α)
  /-- a line from the previous position -/
  | lineTo (p : Point α)
deriving DecidableEq, Inhabited

namespace PathEvent

/-- Whether a movement draws. -/
def isLine : PathEvent α → Bool
  | lineTo _ => true
  | moveTo _ => false

/-- The number of lines among movements. -/
def countLines (events : Array (PathEvent α)) : Nat := events.countP isLine

end PathEvent

/-- Where the turtle is and how. -/
structure Pose (α : Type) where
  position : Point α
  heading : α
  penDown : Bool
deriving DecidableEq

/-- Takes a heading to at least 0 and less than 360 degrees.  The remainder of a tiny negative
heading can round up to 360, which is 0 again. -/
def normalizeHeading [Scalar α] (degrees : α) : α :=
  let h := Scalar.remainder degrees (Scalar.ofNat 360)
  if Scalar.atMost (Scalar.ofNat 360) h then Scalar.ofNat 0 else h

namespace Pose

/-- A pose with the pen down. -/
def start [Scalar α] (position : Point α) (heading : α) : Pose α :=
  ⟨position, normalizeHeading heading, true⟩

/-- The position some length ahead. -/
def ahead [Scalar α] [Compass α] (pose : Pose α) (length : α) : Point α :=
  ⟨pose.position.x + length * Compass.cosine pose.heading,
    pose.position.y - length * Compass.sine pose.heading⟩

/-- The pose after a clockwise turn. -/
def turned [Scalar α] (pose : Pose α) (degrees : α) : Pose α :=
  { pose with heading := normalizeHeading (pose.heading + degrees) }

/-- The event of a move to a position: a line if the pen is down. -/
def travelEvent (pose : Pose α) (target : Point α) : PathEvent α :=
  if pose.penDown then .lineTo target else .moveTo target

end Pose

/-- How one tree is drawn. -/
structure DrawParams (α : Type) where
  /-- the base angle of a turn, in degrees -/
  angle : α
  /-- the length of a step -/
  length : α
  /-- how far a turn may be off the base angle -/
  deviation : α
deriving DecidableEq

/-- A turtle: the parameters of its tree and the canvas it walks on. -/
structure Turtle (α : Type) where
  params : DrawParams α
  canvas : Canvas α
  wrap : WrapMode

/-- A walk so far. -/
structure Walk (α : Type) where
  pose : Pose α
  /-- the poses of open branches, the innermost first -/
  saved : List (Pose α)
  events : Array (PathEvent α)
  /-- how often a step left the canvas -/
  wraps : Nat

namespace Walk

/-- A walk that has jumped to its start. -/
def begin (pose : Pose α) : Walk α := ⟨pose, [], #[.moveTo pose.position], 0⟩

/-- The number of lines drawn. -/
def segments (walk : Walk α) : Nat := PathEvent.countLines walk.events

/-- One step forward, and in again over the opposite edge if it leads off the canvas. -/
def forward [Scalar α] [Compass α] (turtle : Turtle α) (walk : Walk α) : Walk α :=
  let ⟨pose, saved, events, wraps⟩ := walk
  let target := pose.ahead turtle.params.length
  let events := events.push (pose.travelEvent target)
  if turtle.canvas.contains target then ⟨{ pose with position := target }, saved, events, wraps⟩
  else
    let inside := turtle.wrap.wrap target turtle.canvas
    ⟨{ pose with position := inside, penDown := true }, saved, events.push (.moveTo inside),
      wraps + 1⟩

end Walk

namespace Turtle

variable {σ : Type} [RandomSource σ] [Scalar α] [Compass α] [Sampling α]

/-- The amount of the next turn. -/
def turnAmount (turtle : Turtle α) (s : σ) : α × σ :=
  let (j, s) := Random.jitter turtle.params.deviation s
  (turtle.params.angle + j, s)

/-- Carries out one command. -/
def step (turtle : Turtle α) (walk : Walk α) (command : Command) (s : σ) : Outcome (Walk α × σ) :=
  match command with
  | .forward => .ok (walk.forward turtle, s)
  | .turnRight =>
    let (amount, s) := turtle.turnAmount s
    .ok ({ walk with pose := walk.pose.turned amount }, s)
  | .turnLeft =>
    let (amount, s) := turtle.turnAmount s
    .ok ({ walk with pose := walk.pose.turned (-amount) }, s)
  | .branchOpen => .ok ({ walk with saved := walk.pose :: walk.saved }, s)
  | .branchClose =>
    match walk with
    | ⟨_, [], _, _⟩ => .error (.grammar .emptyBranchStack)
    | ⟨_, pose :: saved, events, wraps⟩ =>
      .ok (⟨{ pose with penDown := true }, saved, events.push (.moveTo pose.position), wraps⟩, s)

/-- Runs through the symbols of a word; those that are no command are passed over. -/
def run (turtle : Turtle α) : Word → Walk α → σ → Outcome (Walk α × σ)
  | [], walk, s => .ok (walk, s)
  | symbol :: rest, walk, s =>
    match Command.ofSymbol? symbol with
    | none => run turtle rest walk s
    | some command =>
      match turtle.step walk command s with
      | .error fault => .error fault
      | .ok (walk, s) => run turtle rest walk s

/-- Draws a word from a pose. -/
def draw (turtle : Turtle α) (symbols : Word) (pose : Pose α) (s : σ) : Outcome (Walk α × σ) :=
  turtle.run symbols (Walk.begin pose) s

end Turtle

end Camouflage
