/-
Camouflage/Proofs/Turtle/BranchStack.lean

The stack of saved poses and the counter of the bracket check.  The check looks
at a word alone, the turtle also at poses, random words and the canvas; but the
height of the stack and the counter start at zero and change alike
(`checkBranchesFrom_moves`), and a close that finds the one at zero finds the
other there as well.

So wherever drawing gets to, the check is there with as many open branches as
poses are saved (`checkBranchesFrom_run`).  Drawing fails at the close that the
check reports, and at no other symbol; opens that are never closed do not stop
it, and their poses are left on the stack.
-/
import Camouflage.Proofs.Grammar.Brackets
import Camouflage.Proofs.Turtle.Run

namespace Camouflage.Turtle

variable {α σ : Type} [RandomSource σ] [Scalar α] [Compass α] [Sampling α]
variable (turtle : Turtle α)

/-! ### What has been drawn -/

/-- **One step.**  What a command does to the stack its symbol does to the counter. -/
theorem checkBranchesFrom_moves {walk walk' : Walk α} {command : Command} {s s' : σ}
    (h : turtle.Moves walk s command walk' s') (index : Nat) (rest : Word) :
    checkBranchesFrom index walk.saved.length (command.symbol :: rest)
      = checkBranchesFrom (index + 1) walk'.saved.length rest := by
  cases h with
  | forward =>
    rw [Walk.forward_saved]
    exact checkBranchesFrom_other (by decide) (by decide) _ _ _
  | turnRight => exact checkBranchesFrom_other (by decide) (by decide) _ _ _
  | turnLeft => exact checkBranchesFrom_other (by decide) (by decide) _ _ _
  | branchOpen => exact checkBranchesFrom_open _ _ _
  | branchClose hsaved =>
    rw [hsaved]
    exact checkBranchesFrom_close_succ _ _ _

/-- **Whole runs.**  Where a run has got to, the check stands with as many open branches as poses
are saved. -/
theorem checkBranchesFrom_run {front : Word} {walk walk' : Walk α} {s s' : σ}
    (h : turtle.run front walk s = .ok (walk', s')) (index : Nat) (rest : Word) :
    checkBranchesFrom index walk.saved.length (front ++ rest)
      = checkBranchesFrom (index + front.length) walk'.saved.length rest := by
  refine turtle.run_induction (motive := fun front walk _ => ∀ index,
    checkBranchesFrom index walk.saved.length (front ++ rest)
      = checkBranchesFrom (index + front.length) walk'.saved.length rest) ?_ ?_ ?_ h index
  · intro index
    rfl
  · intro symbol front walk s hsymbol ih index
    rw [List.cons_append, List.length_cons, Nat.add_comm front.length 1, ← Nat.add_assoc, ← ih]
    have hopen : symbol ≠ '[' := Command.ne_symbol_of_none hsymbol .branchOpen
    have hclose : symbol ≠ ']' := Command.ne_symbol_of_none hsymbol .branchClose
    exact checkBranchesFrom_other hopen hclose _ _ _
  · intro command front walk walk₁ s s₁ hmoves ih index
    rw [List.cons_append, List.length_cons, Nat.add_comm front.length 1, ← Nat.add_assoc, ← ih]
    exact turtle.checkBranchesFrom_moves hmoves index (front ++ rest)

/-- Behind what has been drawn, the counter is the height of the stack. -/
theorem openAfter_of_draw {front : Word} {pose : Pose α} {walk : Walk α} {s s' : σ}
    (h : turtle.draw front pose s = .ok (walk, s')) : OpenAfter front walk.saved.length := by
  intro rest
  have hrun := turtle.checkBranchesFrom_run h 0 rest
  rw [Nat.zero_add] at hrun
  exact hrun

/-- The check of a word that can be drawn finds no more than poses left on the stack. -/
theorem checkBranches_of_draw {symbols : Word} {pose : Pose α} {walk : Walk α} {s s' : σ}
    (h : turtle.draw symbols pose s = .ok (walk, s')) :
    checkBranches symbols =
      if walk.saved.length = 0 then .ok ()
      else .error (.grammar (.unclosedOpens walk.saved.length)) := by
  have hopen := turtle.openAfter_of_draw h []
  rw [List.append_nil] at hopen
  rw [hopen, checkBranchesFrom_nil]

/-- A word drawn up to a close with nothing saved is reported for this close. -/
theorem checkBranches_of_draw_front {front rest : Word} {pose : Pose α} {walk : Walk α} {s s' : σ}
    (h : turtle.draw front pose s = .ok (walk, s')) (hsaved : walk.saved = []) :
    checkBranches (front ++ ']' :: rest) = .error (.grammar (.unmatchedClose front.length)) := by
  have hopen := turtle.openAfter_of_draw h (']' :: rest)
  rw [hsaved] at hopen
  exact hopen

/-! ### What is drawn to its end -/

/-- Drawing that fails is reported for a close. -/
theorem checkBranches_of_draw_error {symbols : Word} {pose : Pose α} {s : σ} {fault : Fault}
    (h : turtle.draw symbols pose s = .error fault) :
    ∃ i, checkBranches symbols = .error (.grammar (.unmatchedClose i)) := by
  obtain ⟨front, rest, walk, s', rfl, hrun, hsaved⟩ := turtle.run_eq_error h
  exact ⟨front.length, turtle.checkBranches_of_draw_front hrun hsaved⟩

/-- What the check lets pass, or finds opens in only, is drawn. -/
theorem exists_draw {symbols : Word}
    (h : ∀ i, checkBranches symbols ≠ .error (.grammar (.unmatchedClose i))) (pose : Pose α)
    (s : σ) : ∃ walk s', turtle.draw symbols pose s = .ok (walk, s') := by
  cases hdraw : turtle.draw symbols pose s with
  | ok p => exact ⟨p.1, p.2, rfl⟩
  | error fault =>
    obtain ⟨i, hcheck⟩ := turtle.checkBranches_of_draw_error hdraw
    exact absurd hcheck (h i)

/-- A word that passes is drawn and leaves nothing on the stack. -/
theorem exists_draw_of_ok {symbols : Word} (h : checkBranches symbols = .ok ()) (pose : Pose α)
    (s : σ) : ∃ walk s', turtle.draw symbols pose s = .ok (walk, s') ∧ walk.saved = [] := by
  obtain ⟨walk, s', hdraw⟩ := turtle.exists_draw (fun i hi => by rw [h] at hi; cases hi) pose s
  rw [turtle.checkBranches_of_draw hdraw] at h
  split at h
  · next hsaved => exact ⟨walk, s', hdraw, List.eq_nil_of_length_eq_zero hsaved⟩
  · cases h

/-- A word with opens left is drawn and leaves as many poses on the stack. -/
theorem exists_draw_of_unclosed {symbols : Word} {k : Nat}
    (h : checkBranches symbols = .error (.grammar (.unclosedOpens k))) (pose : Pose α) (s : σ) :
    ∃ walk s', turtle.draw symbols pose s = .ok (walk, s') ∧ walk.saved.length = k := by
  obtain ⟨walk, s', hdraw⟩ := turtle.exists_draw (fun i hi => by rw [h] at hi; cases hi) pose s
  rw [turtle.checkBranches_of_draw hdraw] at h
  split at h
  · cases h
  · cases h
    exact ⟨walk, s', hdraw, rfl⟩

/-! ### Where drawing fails -/

/-- At every symbol: either the report is for one before it, or drawing gets there and the counter
is the height of the stack. -/
theorem unmatched_or_openAfter (symbols : Word) (n : Nat) (pose : Pose α) (s : σ) :
    (∃ i < n, checkBranches symbols = .error (.grammar (.unmatchedClose i))) ∨
      ∃ walk s', turtle.draw (symbols.take n) pose s = .ok (walk, s') ∧
        OpenAfter (symbols.take n) walk.saved.length := by
  cases hdraw : turtle.draw (symbols.take n) pose s with
  | ok p => exact Or.inr ⟨p.1, p.2, rfl, turtle.openAfter_of_draw hdraw⟩
  | error fault =>
    obtain ⟨front, rest, walk, s', htake, hrun, hsaved⟩ := turtle.run_eq_error hdraw
    have hsymbols : symbols = front ++ ']' :: (rest ++ symbols.drop n) := by
      rw [← List.cons_append, ← List.append_assoc, ← htake, List.take_append_drop]
    have hlength : front.length < n := by
      have hle : (symbols.take n).length ≤ n := List.length_take_le n symbols
      rw [htake, List.length_append, List.length_cons] at hle
      omega
    refine Or.inl ⟨front.length, hlength, ?_⟩
    rw [hsymbols]
    exact turtle.checkBranches_of_draw_front hrun hsaved

/-- Drawing gets through what stands before the symbol with index `i`, and fails on this symbol. -/
def FailsAt (symbols : Word) (pose : Pose α) (s : σ) (i : Nat) : Prop :=
  ∃ front symbol rest walk s', symbols = front ++ symbol :: rest ∧ front.length = i ∧
    turtle.draw front pose s = .ok (walk, s') ∧
      ∃ fault, turtle.run [symbol] walk s' = .error fault

theorem failsAt_iff {symbols : Word} {pose : Pose α} {s : σ} {i : Nat} :
    turtle.FailsAt symbols pose s i ↔
      checkBranches symbols = .error (.grammar (.unmatchedClose i)) := by
  constructor
  · rintro ⟨front, symbol, rest, walk, s', rfl, rfl, hdraw, fault, hfault⟩
    obtain ⟨before, behind, walk', s'', hsymbol, hrun, hsaved⟩ := turtle.run_eq_error hfault
    -- one symbol has nothing before it
    obtain ⟨rfl, rfl, -⟩ : before = [] ∧ symbol = ']' ∧ behind = [] := by
      cases before with
      | nil => simpa using hsymbol
      | cons c before => simp at hsymbol
    cases hrun
    exact turtle.checkBranches_of_draw_front hdraw hsaved
  · intro h
    cases hdraw : turtle.draw symbols pose s with
    | ok p =>
      -- a word that is drawn to its end is reported for opens at most
      rw [turtle.checkBranches_of_draw hdraw] at h
      split at h
      · cases h
      · cases h
    | error fault =>
      obtain ⟨front, rest, walk, s', rfl, hrun, hsaved⟩ := turtle.run_eq_error hdraw
      rw [turtle.checkBranches_of_draw_front hrun hsaved] at h
      cases h
      refine ⟨front, ']', rest, walk, s', rfl, rfl, hrun, .grammar .emptyBranchStack, ?_⟩
      obtain ⟨pose', saved, events, wraps⟩ := walk
      obtain rfl : saved = [] := hsaved
      rfl

/-- Where a symbol fails, the whole word does. -/
theorem FailsAt.draw_eq_error {symbols : Word} {pose : Pose α} {s : σ} {i : Nat}
    (h : turtle.FailsAt symbols pose s i) :
    ∃ fault, turtle.draw symbols pose s = .error fault := by
  obtain ⟨front, symbol, rest, walk, s', rfl, -, hdraw, fault, hfault⟩ := h
  refine ⟨fault, ?_⟩
  rw [draw] at hdraw ⊢
  rw [run_append, hdraw]
  show turtle.run ([symbol] ++ rest) walk s' = .error fault
  rw [run_append, hfault]
  rfl

/-- **The check and the turtle agree.**  Whatever the parameters, the canvas, the wrap mode, the
start and the random words: drawing fails exactly if the check reports a close without an open, and
on the symbol with the index it reports.  Before that symbol the counter is the height of the stack,
after every symbol.  A word that passes is drawn and leaves nothing on the stack, and one that is
reported only for opens is drawn and leaves as many poses there as the report counts. -/
theorem draw_agrees_checkBranches (pose : Pose α) (symbols : Word) (s : σ) :
    ((∃ fault, turtle.draw symbols pose s = .error fault) ↔
      ∃ i, checkBranches symbols = .error (.grammar (.unmatchedClose i))) ∧
    (∀ i, turtle.FailsAt symbols pose s i ↔
      checkBranches symbols = .error (.grammar (.unmatchedClose i))) ∧
    (∀ n, (∃ i < n, checkBranches symbols = .error (.grammar (.unmatchedClose i))) ∨
      ∃ walk s', turtle.draw (symbols.take n) pose s = .ok (walk, s') ∧
        OpenAfter (symbols.take n) walk.saved.length) ∧
    (checkBranches symbols = .ok () →
      ∃ walk s', turtle.draw symbols pose s = .ok (walk, s') ∧ walk.saved = []) ∧
    ∀ k, checkBranches symbols = .error (.grammar (.unclosedOpens k)) →
      ∃ walk s', turtle.draw symbols pose s = .ok (walk, s') ∧ walk.saved.length = k := by
  refine ⟨⟨?_, ?_⟩, fun i => turtle.failsAt_iff, fun n => ?_, fun h => ?_, fun k h => ?_⟩
  · rintro ⟨fault, hdraw⟩
    exact turtle.checkBranches_of_draw_error hdraw
  · rintro ⟨i, hcheck⟩
    have hfails : turtle.FailsAt symbols pose s i := turtle.failsAt_iff.2 hcheck
    exact hfails.draw_eq_error
  · exact turtle.unmatched_or_openAfter symbols n pose s
  · exact turtle.exists_draw_of_ok h pose s
  · exact turtle.exists_draw_of_unclosed h pose s

end Camouflage.Turtle
