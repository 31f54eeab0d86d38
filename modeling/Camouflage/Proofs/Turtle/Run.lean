/-
Camouflage/Proofs/Turtle/Run.lean

Runs, step by step.  `Moves` lists what a command can do to a walk and to the
stream, one case for each command; a close has none if nothing is saved.

A run goes over a word symbol by symbol; a symbol that is no command changes
nothing, and a command is a step after which the run goes on.  So a run over two
words is a run over the first and then, from where that ended, a run over the
second (`run_append`).  What holds where a run ends, and is passed back over every
symbol, holds where it began (`run_induction`).
-/
import Camouflage.Proofs.Grammar.Adding
import Camouflage.Turtle.Walk

namespace Camouflage

/-! ### A step forward -/

namespace Walk

variable {α : Type} [Scalar α] [Compass α]

/-- A step forward, wrapped or not, saves nothing. -/
theorem forward_saved (turtle : Turtle α) (walk : Walk α) :
    (walk.forward turtle).saved = walk.saved := by
  rw [forward]
  split
  · rfl
  · rfl

theorem forward_heading (turtle : Turtle α) (walk : Walk α) :
    (walk.forward turtle).pose.heading = walk.pose.heading := by
  rw [forward]
  split
  · rfl
  · rfl

end Walk

namespace Turtle

variable {α σ : Type} [RandomSource σ] [Scalar α] [Compass α] [Sampling α]

/-! ### One command -/

/-- What a command makes of a walk and of the stream. -/
inductive Moves (turtle : Turtle α) (walk : Walk α) (s : σ) : Command → Walk α → σ → Prop
  | forward : Moves turtle walk s .forward (walk.forward turtle) s
  | turnRight : Moves turtle walk s .turnRight
      { walk with pose := walk.pose.turned (turtle.turnAmount s).1 } (turtle.turnAmount s).2
  | turnLeft : Moves turtle walk s .turnLeft
      { walk with pose := walk.pose.turned (-(turtle.turnAmount s).1) } (turtle.turnAmount s).2
  | branchOpen : Moves turtle walk s .branchOpen { walk with saved := walk.pose :: walk.saved } s
  | branchClose {pose : Pose α} {saved : List (Pose α)} (h : walk.saved = pose :: saved) :
      Moves turtle walk s .branchClose
        ⟨{ pose with penDown := true }, saved, walk.events.push (.moveTo pose.position),
          walk.wraps⟩ s

variable (turtle : Turtle α)

theorem moves_of_step {walk walk' : Walk α} {command : Command} {s s' : σ}
    (h : turtle.step walk command s = .ok (walk', s')) : turtle.Moves walk s command walk' s' := by
  cases command with
  | forward =>
    cases h
    exact .forward
  | turnRight =>
    cases h
    exact .turnRight
  | turnLeft =>
    cases h
    exact .turnLeft
  | branchOpen =>
    cases h
    exact .branchOpen
  | branchClose =>
    obtain ⟨pose, saved, events, wraps⟩ := walk
    cases saved with
    | nil => cases h
    | cons pose saved =>
      cases h
      exact .branchClose rfl

theorem step_of_moves {walk walk' : Walk α} {command : Command} {s s' : σ}
    (h : turtle.Moves walk s command walk' s') : turtle.step walk command s = .ok (walk', s') := by
  obtain ⟨pose, saved, events, wraps⟩ := walk
  cases h with
  | forward => rfl
  | turnRight => rfl
  | turnLeft => rfl
  | branchOpen => rfl
  | branchClose hsaved =>
    cases hsaved
    rfl

/-- The one command that can fail is a close with nothing saved. -/
theorem step_eq_error {walk : Walk α} {command : Command} {s : σ} {fault : Fault}
    (h : turtle.step walk command s = .error fault) :
    command = .branchClose ∧ walk.saved = [] ∧ fault = .grammar .emptyBranchStack := by
  cases command with
  | forward => cases h
  | turnRight => cases h
  | turnLeft => cases h
  | branchOpen => cases h
  | branchClose =>
    obtain ⟨pose, saved, events, wraps⟩ := walk
    cases saved with
    | nil =>
      cases h
      exact ⟨rfl, rfl, rfl⟩
    | cons pose saved => cases h

/-! ### Words -/

variable {symbol : Char}

theorem run_cons_of_none (h : Command.ofSymbol? symbol = none) (rest : Word) (walk : Walk α)
    (s : σ) : turtle.run (symbol :: rest) walk s = turtle.run rest walk s := by
  rw [run, h]

theorem run_cons_of_some {command : Command} (h : Command.ofSymbol? symbol = some command)
    (rest : Word) (walk : Walk α) (s : σ) :
    turtle.run (symbol :: rest) walk s
      = turtle.step walk command s >>= fun p => turtle.run rest p.1 p.2 := by
  rw [run, h]
  dsimp only
  cases turtle.step walk command s <;> rfl

theorem run_cons_of_moves {walk walk' : Walk α} {command : Command} {s s' : σ}
    (h : turtle.Moves walk s command walk' s') (rest : Word) :
    turtle.run (command.symbol :: rest) walk s = turtle.run rest walk' s' := by
  rw [run_cons_of_some turtle (Command.ofSymbol?_eq_some_iff.2 rfl), turtle.step_of_moves h]
  rfl

theorem run_append (front back : Word) (walk : Walk α) (s : σ) :
    turtle.run (front ++ back) walk s
      = turtle.run front walk s >>= fun p => turtle.run back p.1 p.2 := by
  induction front generalizing walk s with
  | nil => rfl
  | cons symbol rest ih =>
    rw [List.cons_append]
    cases h : Command.ofSymbol? symbol with
    | none =>
      rw [run_cons_of_none turtle h, run_cons_of_none turtle h, ih]
    | some command =>
      rw [run_cons_of_some turtle h, run_cons_of_some turtle h]
      cases turtle.step walk command s with
      | error fault => rfl
      | ok p => exact ih p.1 p.2

/-- **Induction over a run.**  What holds at its end and is passed back over symbols that are no
command and over moves holds at its beginning. -/
theorem run_induction {walk' : Walk α} {s' : σ} {motive : Word → Walk α → σ → Prop}
    (nil : motive [] walk' s')
    (pass : ∀ {symbol word walk s}, Command.ofSymbol? symbol = none → motive word walk s →
      motive (symbol :: word) walk s)
    (move : ∀ {command word walk walk₁ s s₁}, turtle.Moves walk s command walk₁ s₁ →
      motive word walk₁ s₁ → motive (command.symbol :: word) walk s)
    {word : Word} {walk : Walk α} {s : σ} (h : turtle.run word walk s = .ok (walk', s')) :
    motive word walk s := by
  induction word generalizing walk s with
  | nil =>
    cases h
    exact nil
  | cons symbol word ih =>
    cases hsymbol : Command.ofSymbol? symbol with
    | none =>
      rw [run_cons_of_none turtle hsymbol] at h
      exact pass hsymbol (ih h)
    | some command =>
      rw [run_cons_of_some turtle hsymbol] at h
      obtain ⟨⟨walk₁, s₁⟩, hstep, hrun⟩ := Outcome.bind_eq_ok_iff.1 h
      obtain rfl := Command.ofSymbol?_eq_some_iff.1 hsymbol
      exact move (turtle.moves_of_step hstep) (ih hrun)

/-- A run that fails gets through to a close with nothing saved. -/
theorem run_eq_error {word : Word} {walk : Walk α} {s : σ} {fault : Fault}
    (h : turtle.run word walk s = .error fault) :
    ∃ front rest walk' s', word = front ++ ']' :: rest ∧
      turtle.run front walk s = .ok (walk', s') ∧ walk'.saved = [] := by
  induction word generalizing walk s with
  | nil => cases h
  | cons symbol word ih =>
    cases hsymbol : Command.ofSymbol? symbol with
    | none =>
      rw [run_cons_of_none turtle hsymbol] at h
      obtain ⟨front, rest, walk', s', rfl, hrun, hsaved⟩ := ih h
      refine ⟨symbol :: front, rest, walk', s', rfl, ?_, hsaved⟩
      rw [run_cons_of_none turtle hsymbol, hrun]
    | some command =>
      rw [run_cons_of_some turtle hsymbol] at h
      cases hstep : turtle.step walk command s with
      | error fault' =>
        obtain ⟨rfl, hsaved, -⟩ := turtle.step_eq_error hstep
        obtain rfl := Command.ofSymbol?_eq_some_iff.1 hsymbol
        exact ⟨[], word, walk, s, rfl, rfl, hsaved⟩
      | ok p =>
        rw [hstep] at h
        obtain ⟨front, rest, walk', s', rfl, hrun, hsaved⟩ := ih h
        refine ⟨symbol :: front, rest, walk', s', rfl, ?_, hsaved⟩
        rw [run_cons_of_some turtle hsymbol, hstep]
        exact hrun

end Turtle

end Camouflage
