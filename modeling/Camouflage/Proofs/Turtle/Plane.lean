/-
Camouflage/Proofs/Turtle/Plane.lean

The walk on the unbounded plane: the interpreter of the same commands with no
canvas at all.  It is what a walk on a canvas is compared with.
-/
import Camouflage.Turtle.Walk

namespace Camouflage.Plane

variable {α σ : Type} [Scalar α] [Compass α] [Sampling α] [RandomSource σ]

/-- Carries out one command.  A step forward ends where it leads to. -/
def step (params : DrawParams α) (walk : Walk α) (command : Command) (s : σ) :
    Outcome (Walk α × σ) :=
  match command with
  | .forward =>
    let target := walk.pose.ahead params.length
    let events := walk.events.push (walk.pose.travelEvent target)
    .ok ({ walk with pose := { walk.pose with position := target }, events := events }, s)
  | .turnRight =>
    let (jitter, s) := Random.jitter params.deviation s
    .ok ({ walk with pose := walk.pose.turned (params.angle + jitter) }, s)
  | .turnLeft =>
    let (jitter, s) := Random.jitter params.deviation s
    .ok ({ walk with pose := walk.pose.turned (-(params.angle + jitter)) }, s)
  | .branchOpen => .ok ({ walk with saved := walk.pose :: walk.saved }, s)
  | .branchClose =>
    match walk.saved with
    | [] => .error (.grammar .emptyBranchStack)
    | pose :: saved =>
      let events := walk.events.push (.moveTo pose.position)
      .ok ({ walk with pose := { pose with penDown := true }, saved := saved, events := events }, s)

/-- Runs through the symbols of a word; those that are no command are passed over. -/
def run (params : DrawParams α) : Word → Walk α → σ → Outcome (Walk α × σ)
  | [], walk, s => .ok (walk, s)
  | symbol :: rest, walk, s =>
    match Command.ofSymbol? symbol with
    | none => run params rest walk s
    | some command =>
      match step params walk command s with
      | .error fault => .error fault
      | .ok (walk, s) => run params rest walk s

/-- Draws a word from a pose. -/
def draw (params : DrawParams α) (symbols : Word) (pose : Pose α) (s : σ) :
    Outcome (Walk α × σ) :=
  run params symbols (Walk.begin pose) s

/-! ### Equations of a run -/

variable (params : DrawParams α) {symbol : Char}

theorem run_cons_of_none (h : Command.ofSymbol? symbol = none) (rest : Word) (walk : Walk α)
    (s : σ) : run params (symbol :: rest) walk s = run params rest walk s := by
  rw [run, h]

theorem run_cons_of_some {command : Command} (h : Command.ofSymbol? symbol = some command)
    (rest : Word) (walk : Walk α) (s : σ) :
    run params (symbol :: rest) walk s
      = step params walk command s >>= fun p => run params rest p.1 p.2 := by
  rw [run, h]
  dsimp only
  cases step params walk command s <;> rfl

end Camouflage.Plane
