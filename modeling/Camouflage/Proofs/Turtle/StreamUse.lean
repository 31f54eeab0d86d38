/-
Camouflage/Proofs/Turtle/StreamUse.lean

How much of the stream a walk uses up: one word of 64 bits for every turn, and
nothing else.  Steps forward, branches, wraps and symbols that are no command
draw nothing, and a turn draws its jitter even if there is no deviation.
-/
import Mathlib.Logic.Function.Iterate
import Camouflage.Proofs.Turtle.Run

namespace Camouflage

variable {α σ : Type} [RandomSource σ]

namespace Random

/-- The stream behind some words of 64 bits. -/
def skip (k : Nat) (s : σ) : σ := (fun s => (RandomSource.next64 s).2)^[k] s

theorem skip_skip (m n : Nat) (s : σ) : skip n (skip m s) = skip (m + n) s := by
  rw [Nat.add_comm]
  exact (Function.iterate_add_apply _ n m s).symm

variable [Scalar α] [Sampling α]

omit [Scalar α] in
theorem stream_drawBetween (low high : α) (s : σ) : (drawBetween low high s).2 = skip 1 s := rfl

theorem stream_jitter (deviation : α) (s : σ) : (jitter deviation s).2 = skip 1 s := rfl

end Random

/-- The number of turns in a word. -/
def turns (word : Word) : Nat := word.count '+' + word.count '-'

theorem turns_append (front back : Word) : turns (front ++ back) = turns front + turns back := by
  rw [turns, turns, turns, List.count_append, List.count_append]
  omega

theorem turns_cons (symbol : Char) (word : Word) :
    turns (symbol :: word) = turns [symbol] + turns word :=
  turns_append [symbol] word

/-- A symbol that is no command is no turn. -/
theorem turns_of_none {symbol : Char} (h : Command.ofSymbol? symbol = none) :
    turns [symbol] = 0 := by
  have hplus : symbol ≠ '+' := Command.ne_symbol_of_none h .turnRight
  have hminus : symbol ≠ '-' := Command.ne_symbol_of_none h .turnLeft
  rw [turns, List.count_singleton, List.count_singleton, beq_eq_false_iff_ne.2 hplus,
    beq_eq_false_iff_ne.2 hminus]
  rfl

namespace Turtle

variable [Scalar α] [Compass α] [Sampling α] (turtle : Turtle α)

/-- The amounts of successive turns, from a stream on: each is drawn from the word behind those of
the turns before it. -/
def amounts (s : σ) (i : Nat) : α := (turtle.turnAmount (Random.skip i s)).1

/-- **One step.**  A turn draws one word, every other command none. -/
theorem stream_moves {walk walk' : Walk α} {command : Command} {s s' : σ}
    (h : turtle.Moves walk s command walk' s') : s' = Random.skip (turns [command.symbol]) s := by
  cases h with
  | forward => rfl
  | turnRight => rfl
  | turnLeft => rfl
  | branchOpen => rfl
  | branchClose _ => rfl

/-- **Whole runs.**  A run that ends has used up one word for every turn of its word. -/
theorem stream_run {word : Word} {walk walk' : Walk α} {s s' : σ}
    (h : turtle.run word walk s = .ok (walk', s')) : s' = Random.skip (turns word) s := by
  refine turtle.run_induction (motive := fun word _ s => s' = Random.skip (turns word) s)
    rfl ?_ ?_ h
  · intro symbol word walk s hsymbol ih
    rw [turns_cons, turns_of_none hsymbol, Nat.zero_add]
    exact ih
  · intro command word walk walk₁ s s₁ hmoves ih
    rw [turns_cons, ← Random.skip_skip, ← turtle.stream_moves hmoves]
    exact ih

theorem stream_draw {word : Word} {pose : Pose α} {walk : Walk α} {s s' : σ}
    (h : turtle.draw word pose s = .ok (walk, s')) : s' = Random.skip (turns word) s :=
  turtle.stream_run h

end Turtle

end Camouflage
