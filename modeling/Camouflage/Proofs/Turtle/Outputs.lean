/-
Camouflage/Proofs/Turtle/Outputs.lean

Which outputs of the stream a walk depends on.  The turns of a word use the outputs
in order, one each: a turn with `i` turns before it is jittered by a function of the
deviation and of output `i`, wherever in the word it stands, and nothing else looks
at the stream (`UsesOutput`).

So a walk is determined by as many outputs as its word has turns.  Two streams that
agree on these, be they of the same kind or not, give the same walk, whatever they
hold behind them (`run_of_output_eq`).
-/
import Camouflage.Number.Binary64
import Camouflage.Proofs.Turtle.BranchStack
import Camouflage.Proofs.Turtle.StreamUse
import Camouflage.Random.ChaCha

namespace Camouflage

variable {α σ τ : Type} [RandomSource σ] [RandomSource τ]

/-! ### Outputs -/

namespace Random

/-- The words of 64 bits that a stream puts out, counted from zero. -/
def output (s : σ) (i : Nat) : UInt64 := (RandomSource.next64 (skip i s)).1

theorem output_skip (s : σ) (m n : Nat) : output (skip m s) n = output s (m + n) := by
  rw [output, skip_skip, output]

variable [Scalar α] [Sampling α]

/-- The jitter that an output stands for. -/
def jitterOf (deviation : α) (w : UInt64) : α :=
  let d := Sampling.halfWidth (Scalar.abs deviation)
  Sampling.between (-d) d w

/-- Behind `i` outputs, jitter is what output `i` stands for. -/
theorem jitter_skip (deviation : α) (s : σ) (i : Nat) :
    jitter deviation (skip i s) = (jitterOf deviation (output s i), skip (i + 1) s) := by
  rw [← skip_skip]
  rfl

end Random

namespace Turtle

variable [Scalar α] [Compass α] [Sampling α] {turtle : Turtle α}

/-! ### One symbol -/

/-- What a symbol with `i` turns before it makes of a walk and of the stream.  A turn uses output
`i`, and no other symbol uses any. -/
inductive UsesOutput (turtle : Turtle α) (s : σ) (i : Nat) (walk : Walk α) :
    Char → Walk α → σ → Prop
  | right : UsesOutput turtle s i walk '+'
      { walk with
        pose := walk.pose.turned
          (turtle.params.angle + Random.jitterOf turtle.params.deviation (Random.output s i)) }
      (Random.skip (i + 1) s)
  | left : UsesOutput turtle s i walk '-'
      { walk with
        pose := walk.pose.turned
          (-(turtle.params.angle + Random.jitterOf turtle.params.deviation (Random.output s i))) }
      (Random.skip (i + 1) s)
  | none {symbol : Char} {walk' : Walk α} (hright : symbol ≠ '+') (hleft : symbol ≠ '-') :
      UsesOutput turtle s i walk symbol walk' (Random.skip i s)

/-- **One step.**  Behind `i` outputs a command uses the next one or none. -/
theorem usesOutput_of_moves {walk walk' : Walk α} {command : Command} {s s' : σ} {i : Nat}
    (h : turtle.Moves walk (Random.skip i s) command walk' s') :
    turtle.UsesOutput s i walk command.symbol walk' s' := by
  cases h with
  | forward => exact .none (by decide) (by decide)
  | turnRight =>
    rw [turnAmount, Random.jitter_skip]
    exact .right
  | turnLeft =>
    rw [turnAmount, Random.jitter_skip]
    exact .left
  | branchOpen => exact .none (by decide) (by decide)
  | branchClose _ => exact .none (by decide) (by decide)

theorem usesOutput_of_run {symbol : Char} {walk walk' : Walk α} {s s' : σ} {i : Nat}
    (h : turtle.run [symbol] walk (Random.skip i s) = .ok (walk', s')) :
    turtle.UsesOutput s i walk symbol walk' s' := by
  cases hsymbol : Command.ofSymbol? symbol with
  | none =>
    rw [run_cons_of_none turtle hsymbol] at h
    cases h
    exact .none (Command.ne_symbol_of_none hsymbol .turnRight)
      (Command.ne_symbol_of_none hsymbol .turnLeft)
  | some command =>
    rw [run_cons_of_some turtle hsymbol] at h
    obtain ⟨p, hstep, hrun⟩ := Outcome.bind_eq_ok_iff.1 h
    cases hrun
    obtain rfl := Command.ofSymbol?_eq_some_iff.1 hsymbol
    exact usesOutput_of_moves (turtle.moves_of_step hstep)

/-! ### Streams with the same outputs -/

omit [Compass α] in
theorem turnAmount_of_output_eq {s : σ} {t : τ} (same : Random.output t 0 = Random.output s 0) :
    (turtle.turnAmount t).1 = (turtle.turnAmount s).1 := by
  show turtle.params.angle + Random.jitterOf turtle.params.deviation (Random.output t 0) = _
  rw [same]
  rfl

/-- **One step.**  On a stream with the same next output a command does the same; a command that is
no turn does so on every stream. -/
theorem Moves.of_output_eq {walk walk' : Walk α} {command : Command} {s s' : σ}
    (h : turtle.Moves walk s command walk' s') {t : τ}
    (same : ∀ i < turns [command.symbol], Random.output t i = Random.output s i) :
    turtle.Moves walk t command walk' (Random.skip (turns [command.symbol]) t) := by
  cases h with
  | forward => exact .forward
  | turnRight =>
    rw [← turnAmount_of_output_eq (same 0 Nat.one_pos)]
    exact .turnRight
  | turnLeft =>
    rw [← turnAmount_of_output_eq (same 0 Nat.one_pos)]
    exact .turnLeft
  | branchOpen => exact .branchOpen
  | branchClose hsaved => exact .branchClose hsaved

/-- **Whole runs.**  A run does the same on every stream with the same outputs, as far as its word has
turns to use them. -/
theorem run_of_output_eq {word : Word} {walk walk' : Walk α} {s s' : σ}
    (h : turtle.run word walk s = .ok (walk', s')) {t : τ}
    (same : ∀ i < turns word, Random.output t i = Random.output s i) :
    turtle.run word walk t = .ok (walk', Random.skip (turns word) t) := by
  refine turtle.run_induction (motive := fun word walk s => ∀ t : τ,
    (∀ i < turns word, Random.output t i = Random.output s i) →
      turtle.run word walk t = .ok (walk', Random.skip (turns word) t)) ?_ ?_ ?_ h t same
  · intro t _
    rfl
  · intro symbol word walk s hsymbol ih t same
    rw [turns_cons, turns_of_none hsymbol, Nat.zero_add] at same ⊢
    rw [run_cons_of_none turtle hsymbol]
    exact ih t same
  · intro command word walk walk₁ s s₁ hmoves ih t same
    rw [turns_cons] at same ⊢
    have hfirst := hmoves.of_output_eq (t := t) fun i hi => same i (by omega)
    -- behind the command both streams have moved on by as many outputs
    have hrest : ∀ i < turns word,
        Random.output (Random.skip (turns [command.symbol]) t) i = Random.output s₁ i := by
      intro i hi
      rw [turtle.stream_moves hmoves, Random.output_skip, Random.output_skip]
      exact same _ (by omega)
    rw [turtle.run_cons_of_moves hfirst, ← Random.skip_skip]
    exact ih _ hrest

/-! ### What a drawing uses -/

/-- **The use of the stream.**  A word that is drawn has used up one output for every turn of it.  At
each of its symbols, the outputs used before are those of the turns before; the symbol uses the next
one if it is a turn, which is jittered by what this output stands for, and none otherwise.  Any other
stream with these outputs gives the same walk. -/
theorem draw_uses_outputs (turtle : Turtle α) {symbols : Word} {pose : Pose α} {walk : Walk α}
    {s s' : σ} (h : turtle.draw symbols pose s = .ok (walk, s')) :
    s' = Random.skip (symbols.count '+' + symbols.count '-') s ∧
    (∀ front symbol rest, symbols = front ++ symbol :: rest →
      ∃ before after t,
        turtle.draw front pose s = .ok (before, Random.skip (front.count '+' + front.count '-') s) ∧
        turtle.draw (front ++ [symbol]) pose s = .ok (after, t) ∧
        turtle.UsesOutput s (front.count '+' + front.count '-') before symbol after t) ∧
    ∀ {τ : Type} [RandomSource τ] (t : τ),
      (∀ i < symbols.count '+' + symbols.count '-', Random.output t i = Random.output s i) →
        turtle.draw symbols pose t
          = .ok (walk, Random.skip (symbols.count '+' + symbols.count '-') t) := by
  refine ⟨turtle.stream_draw h, fun front symbol rest hsplit => ?_, fun t same => ?_⟩
  · rw [hsplit, draw, run_append] at h
    obtain ⟨⟨before, t⟩, hfront, hrest⟩ := Outcome.bind_eq_ok_iff.1 h
    obtain rfl := turtle.stream_draw hfront
    rw [← List.singleton_append, run_append] at hrest
    obtain ⟨⟨after, t⟩, hsymbol, -⟩ := Outcome.bind_eq_ok_iff.1 hrest
    refine ⟨before, after, t, hfront, ?_, usesOutput_of_run hsymbol⟩
    rw [draw, run_append, hfront]
    exact hsymbol
  · exact run_of_output_eq h same

/-- The statement at a turtle without deviation, whose steps are longer than its canvas, and at the
turn inside the branch of its word: it uses the second output, and there is no third. -/
theorem draw_uses_outputs_branch :
    let turtle : Turtle Float := ⟨⟨25, 700, 0⟩, .ofSize 320 200, .modulo⟩
    let pose : Pose Float := .start ⟨40, 40⟩ 10
    let s := Keystream.ofSeed 5
    ∃ walk before after,
      turtle.draw "F+X[F-]F".toList pose s = .ok (walk, Random.skip 2 s) ∧
      turtle.draw "F+X[F".toList pose s = .ok (before, Random.skip 1 s) ∧
      turtle.draw "F+X[F-".toList pose s = .ok (after, Random.skip 2 s) ∧
      turtle.UsesOutput s 1 before '-' after (Random.skip 2 s) := by
  intro turtle pose s
  have hword : checkBranches "F+X[F-]F".toList = .ok () := by rfl
  obtain ⟨walk, s', hdraw, -⟩ := turtle.exists_draw_of_ok hword pose s
  obtain ⟨rfl, hsymbols, -⟩ := turtle.draw_uses_outputs hdraw
  obtain ⟨before, after, t, hbefore, hafter, huses⟩ := hsymbols "F+X[F".toList '-' "]F".toList rfl
  cases huses with
  | left => exact ⟨walk, before, _, hdraw, hbefore, hafter, .left⟩
  | none _ hleft => exact absurd rfl hleft

end Turtle

end Camouflage
