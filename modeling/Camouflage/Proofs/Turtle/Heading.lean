/-
Camouflage/Proofs/Turtle/Heading.lean

The heading in which a word ends.  Numbers are exact.  Of a word whose brackets
match, only the turns outside of all brackets count for it: the turtle ends in the
heading it had, turned by the sum of these, and taken once to a heading within one
turn (`heading_draw`).

The turtle takes its heading there after every single turn.  This loses nothing,
because headings are equal exactly if they differ by whole turns
(`normalizeHeading_eq_iff`).

A turn inside a branch is forgotten at the close, but it has used up a random word.
So the amount of a turn belongs to its place among all turns of the word, and only
then it matters whether it is in brackets (`turnBehind`).  What carries this through
a run is the outermost pose, the one saved first if any is saved: no turn inside a
branch touches it, an open does not change it, and when the last branch is closed
the turtle is back in it.
-/
import Mathlib.Algebra.BigOperators.Fin
import Camouflage.Proofs.Turtle.Staying
import Camouflage.Proofs.Turtle.StreamUse

namespace Camouflage

variable {K σ : Type}

/-! ### Turns outside of brackets -/

/-- Behind this beginning of a word, as many brackets have been closed as opened; in a word whose
brackets match, what stands here is outside of every pair. -/
def Outermost (front : Word) : Prop := front.count ']' = front.count '['

instance (front : Word) : Decidable (Outermost front) :=
  inferInstanceAs (Decidable (front.count ']' = front.count '['))

section Sums

variable [Field K]

/-- What a symbol adds to a heading, with an amount for it if it is a turn. -/
def signedTurn (symbol : Char) (amount : K) : K :=
  if symbol = '+' then amount else if symbol = '-' then -amount else 0

/-- What a symbol that stands behind `front` adds to the heading in which a word ends; `amount i`
is the amount of the turn that has `i` turns before it, in brackets or not. -/
def turnBehind (amount : ℕ → K) (front : Word) (symbol : Char) : K :=
  if Outermost front then signedTurn symbol (amount (turns front)) else 0

/-- The turns of a word that are outside of brackets, added up. -/
def outerTurn (amount : ℕ → K) (word : Word) : K :=
  ∑ i : Fin word.length, turnBehind amount (word.take i) word[i]

theorem outerTurn_nil (amount : ℕ → K) : outerTurn amount [] = 0 := rfl

theorem outerTurn_concat (amount : ℕ → K) (word : Word) (symbol : Char) :
    outerTurn amount (word ++ [symbol])
      = outerTurn amount word + turnBehind amount word symbol := by
  have hlength : word.length + 1 = (word ++ [symbol]).length := by
    rw [List.length_append, List.length_singleton]
  rw [outerTurn, ← (finCongr hlength).sum_comp, Fin.sum_univ_castSucc]
  congr 1
  · refine Finset.sum_congr rfl fun i _ => ?_
    simp [List.take_append_of_le_length i.isLt.le, List.getElem_append_left i.isLt]
  · simp

theorem signedTurn_of_none {symbol : Char} (h : Command.ofSymbol? symbol = none) (amount : K) :
    signedTurn symbol amount = 0 := by
  have hplus : symbol ≠ '+' := Command.ne_symbol_of_none h .turnRight
  have hminus : symbol ≠ '-' := Command.ne_symbol_of_none h .turnLeft
  rw [signedTurn, if_neg hplus, if_neg hminus]

end Sums

/-! ### The outermost pose -/

namespace Walk

variable {α : Type}

/-- The pose saved first, which the turtle is back in once all branches are closed; with no branch
open, the pose of the turtle. -/
def outermost (walk : Walk α) : Pose α := walk.saved.getLastD walk.pose

theorem outermost_of_saved_nil {walk : Walk α} (h : walk.saved = []) :
    walk.outermost = walk.pose := by
  rw [outermost, h]
  rfl

theorem outermost_of_saved_cons {walk : Walk α} {pose : Pose α} {saved : List (Pose α)}
    (h : walk.saved = pose :: saved) : walk.outermost = saved.getLastD pose := by
  rw [outermost, h, List.getLastD_cons]

/-- As long as the same poses are saved, it is another one only if it is the pose of the turtle. -/
theorem outermost_of_saved_eq {walk walk' : Walk α} (h : walk'.saved = walk.saved) :
    walk'.outermost = if walk.saved = [] then walk'.pose else walk.outermost := by
  cases hsaved : walk.saved with
  | nil => rw [if_pos rfl, outermost_of_saved_nil (h.trans hsaved)]
  | cons pose saved =>
    rw [if_neg (List.cons_ne_nil pose saved), outermost_of_saved_cons (h.trans hsaved),
      outermost_of_saved_cons hsaved]

end Walk

/-! ### Headings -/

variable [Field K] [LinearOrder K] [FloorRing K] [ToString K]

section Headings

variable [IsStrictOrderedRing K]

theorem normalizeHeading_modEq (degrees : K) : normalizeHeading degrees ≡ degrees [PMOD 360] := by
  rw [normalizeHeading_eq]
  exact Exact.remainder_modEq degrees 360

/-- Headings are the same exactly if they differ by whole turns. -/
theorem normalizeHeading_eq_iff {a b : K} :
    normalizeHeading a = normalizeHeading b ↔ a ≡ b [PMOD 360] := by
  have hturn : (0 : K) < 360 := by norm_num
  have hself (x : K) : toIcoMod hturn 0 x = normalizeHeading x := by
    rw [← (toIcoMod_inj hturn).2 (normalizeHeading_modEq x), toIcoMod_eq_self, zero_add]
    exact normalizeHeading_mem x
  rw [← hself, ← hself]
  exact toIcoMod_inj hturn

/-- Nothing is lost by taking a heading to one turn before it is turned. -/
theorem normalizeHeading_add (degrees amount : K) :
    normalizeHeading (normalizeHeading degrees + amount) = normalizeHeading (degrees + amount) :=
  normalizeHeading_eq_iff.2 ((normalizeHeading_modEq degrees).add_right amount)

end Headings

namespace Turtle

variable [RandomSource σ] [Sampling K] {turtle : Turtle K}

/-! ### What a word makes of the outermost heading -/

/-- Where a walk has got to behind `front`, from the heading and the stream it began with. -/
structure Heads (turtle : Turtle K) (degrees : K) (start : σ) (front : Word) (walk : Walk K)
    (s : σ) : Prop where
  outermost : walk.outermost.heading
    = normalizeHeading (degrees + outerTurn (turtle.amounts start) front)
  opened : walk.saved.length + front.count ']' = front.count '['
  stream : s = Random.skip (turns front) start

theorem heads_begin (position : Point K) (degrees : K) (start : σ) :
    turtle.Heads degrees start [] (Walk.begin (.start position degrees)) start where
  outermost := by
    rw [outerTurn_nil, add_zero]
    rfl
  opened := rfl
  stream := rfl

namespace Heads

variable {degrees : K} {start s : σ} {front : Word} {walk : Walk K}
  (h : turtle.Heads degrees start front walk s)
include h

/-- Branches are open exactly where brackets are. -/
theorem saved_eq_nil_iff : walk.saved = [] ↔ Outermost front := by
  rw [Outermost, ← List.length_eq_zero_iff]
  have hopened := h.opened
  omega

/-- A symbol that is no command changes nothing. -/
theorem pass {symbol : Char} (hsymbol : Command.ofSymbol? symbol = none) :
    turtle.Heads degrees start (front ++ [symbol]) walk s where
  outermost := by
    rw [outerTurn_concat, turnBehind, signedTurn_of_none hsymbol, ite_self, add_zero]
    exact h.outermost
  opened := by
    have hopen : symbol ≠ '[' := Command.ne_symbol_of_none hsymbol .branchOpen
    have hclose : symbol ≠ ']' := Command.ne_symbol_of_none hsymbol .branchClose
    simpa [hopen, hclose] using h.opened
  stream := by
    rw [turns_append, turns_of_none hsymbol]
    exact h.stream

end Heads

omit [RandomSource σ] [Sampling K] in
/-- A turn of the turtle is one of the outermost pose if nothing is saved. -/
theorem outermost_heading_turned {walk walk' : Walk K} {amount : K}
    (hnormal : normalizeHeading walk.outermost.heading = walk.outermost.heading)
    (hpose : walk'.pose = walk.pose.turned amount) (hsaved : walk'.saved = walk.saved) :
    walk'.outermost.heading
      = normalizeHeading (walk.outermost.heading + if walk.saved = [] then amount else 0) := by
  rw [Walk.outermost_of_saved_eq hsaved]
  by_cases hnone : walk.saved = []
  · rw [if_pos hnone, if_pos hnone, Walk.outermost_of_saved_nil hnone, hpose]
    rfl
  · rw [if_neg hnone, if_neg hnone, add_zero, hnormal]

variable [Compass K]

/-- **One step.**  A command turns the outermost heading if it is a turn and nothing is saved; it
does nothing else to it. -/
theorem Moves.outermost_heading {walk walk' : Walk K} {command : Command} {s s' : σ}
    (h : turtle.Moves walk s command walk' s')
    (hnormal : normalizeHeading walk.outermost.heading = walk.outermost.heading) :
    walk'.outermost.heading = normalizeHeading (walk.outermost.heading +
      if walk.saved = [] then signedTurn command.symbol (turtle.turnAmount s).1 else 0) := by
  -- what a command adds that is no turn
  have hsame : walk.outermost.heading
      = normalizeHeading (walk.outermost.heading + if walk.saved = [] then 0 else 0) := by
    rw [ite_self, add_zero, hnormal]
  cases h with
  | forward =>
    refine Eq.trans ?_ hsame
    rw [Walk.outermost_of_saved_eq (Walk.forward_saved turtle walk)]
    split
    · next hsaved => rw [Walk.forward_heading, Walk.outermost_of_saved_nil hsaved]
    · rfl
  | turnRight => exact outermost_heading_turned hnormal rfl rfl
  | turnLeft => exact outermost_heading_turned hnormal rfl rfl
  | branchOpen =>
    refine Eq.trans ?_ hsame
    rw [Walk.outermost_of_saved_cons rfl]
    rfl
  | @branchClose pose saved hsaved =>
    refine Eq.trans ?_ hsame
    rw [Walk.outermost_of_saved_cons hsaved]
    -- the pose that is taken back was the outermost one if it was the only one saved
    cases saved with
    | nil => rfl
    | cons below saved => rw [Walk.outermost_of_saved_cons rfl, List.getLastD_cons]

/-- An open saves a pose, a close takes one back, and nothing else does either. -/
theorem saved_length_moves {walk walk' : Walk K} {command : Command} {s s' : σ}
    (h : turtle.Moves walk s command walk' s') :
    walk'.saved.length + [command.symbol].count ']'
      = walk.saved.length + [command.symbol].count '[' := by
  cases h with
  | forward =>
    rw [Walk.forward_saved]
    rfl
  | turnRight => rfl
  | turnLeft => rfl
  | branchOpen => rfl
  | branchClose hsaved =>
    rw [hsaved]
    rfl

variable [IsStrictOrderedRing K]

/-- A move gets a walk behind the symbol of its command. -/
theorem Heads.moves {degrees : K} {start s s' : σ} {front : Word} {walk walk' : Walk K}
    {command : Command} (h : turtle.Heads degrees start front walk s)
    (hmoves : turtle.Moves walk s command walk' s') :
    turtle.Heads degrees start (front ++ [command.symbol]) walk' s' where
  outermost := by
    have hamount : turtle.amounts start (turns front) = (turtle.turnAmount s).1 := by
      rw [amounts, ← h.stream]
    have hnormal : normalizeHeading walk.outermost.heading = walk.outermost.heading := by
      rw [h.outermost]
      exact normalizeHeading_eq_iff.2 (normalizeHeading_modEq _)
    rw [hmoves.outermost_heading hnormal, h.outermost, normalizeHeading_add, outerTurn_concat,
      turnBehind, hamount, add_assoc]
    simp only [h.saved_eq_nil_iff]
  opened := by
    have hopened := h.opened
    have hmoved := saved_length_moves hmoves
    rw [List.count_append, List.count_append]
    omega
  stream := by
    rw [turns_append, ← Random.skip_skip, ← h.stream]
    exact turtle.stream_moves hmoves

/-- **Whole runs.**  A run over a word gets a walk behind it. -/
theorem Heads.run {degrees : K} {start s s' : σ} {front word : Word} {walk walk' : Walk K}
    (h : turtle.Heads degrees start front walk s)
    (hrun : turtle.run word walk s = .ok (walk', s')) :
    turtle.Heads degrees start (front ++ word) walk' s' := by
  refine turtle.run_induction (motive := fun word walk s => ∀ front,
    turtle.Heads degrees start front walk s →
      turtle.Heads degrees start (front ++ word) walk' s') ?_ ?_ ?_ hrun front h
  · intro front h
    rwa [List.append_nil]
  · intro symbol word walk s hsymbol ih front h
    rw [← List.singleton_append, ← List.append_assoc]
    exact ih _ (h.pass hsymbol)
  · intro command word walk walk₁ s s₁ hmoves ih front h
    rw [← List.singleton_append, ← List.append_assoc]
    exact ih _ (h.moves hmoves)

/-! ### Where a word ends -/

/-- **The final heading.**  A word whose brackets match is drawn, from every position and heading
and with every stream.  It ends in the heading it began with, turned by the sum of its turns outside
of brackets and taken to one turn.  The amount of a turn depends on its place among all turns of the
word; steps and wraps, and turns in brackets, make no other difference to the heading. -/
theorem heading_draw (turtle : Turtle K) {word : Word} (h : checkBranches word = .ok ())
    (position : Point K) (degrees : K) (s : σ) :
    ∃ walk s', turtle.draw word (.start position degrees) s = .ok (walk, s') ∧
      walk.pose.heading ≡ (Pose.start position degrees).heading
        + outerTurn (turtle.amounts s) word [PMOD 360] ∧
      0 ≤ walk.pose.heading ∧ walk.pose.heading < 360 := by
  obtain ⟨walk, s', hdraw, hsaved⟩ := turtle.exists_draw_of_ok h (.start position degrees) s
  have hheads := (heads_begin position degrees s).run hdraw
  have hheading : walk.pose.heading
      = normalizeHeading (degrees + outerTurn (turtle.amounts s) word) := by
    rw [← Walk.outermost_of_saved_nil hsaved]
    exact hheads.outermost
  refine ⟨walk, s', hdraw, ?_⟩
  rw [hheading]
  refine ⟨?_, normalizeHeading_mem _⟩
  have hstart : (Pose.start position degrees).heading ≡ degrees [PMOD 360] :=
    normalizeHeading_modEq degrees
  exact (normalizeHeading_modEq _).trans (hstart.symm.add_right _)

open Exact in
/-- The statement at a word with a turn inside a branch: the turn behind the branch has the third
amount, and the second one is used up. -/
theorem heading_draw_branch :
    let turtle : Turtle ℝ := ⟨⟨25, 700, 10⟩, ⟨160, 100⟩, .modulo⟩
    let amount := turtle.amounts (Keystream.ofSeed 5)
    checkBranches "+[-F]F-".toList = .ok () ∧
      ∃ walk s', turtle.draw "+[-F]F-".toList (.start ⟨40, 40⟩ (-90)) (Keystream.ofSeed 5)
          = .ok (walk, s') ∧
        walk.pose.heading ≡ (Pose.start (⟨40, 40⟩ : Point ℝ) (-90)).heading
          + (amount 0 - amount 2) [PMOD 360] ∧
        0 ≤ walk.pose.heading ∧ walk.pose.heading < 360 := by
  intro turtle amount
  have hword : checkBranches "+[-F]F-".toList = .ok () := by rfl
  have hsum : outerTurn amount "+[-F]F-".toList = amount 0 - amount 2 := by
    show outerTurn amount ([] ++ ['+'] ++ ['['] ++ ['-'] ++ ['F'] ++ [']'] ++ ['F'] ++ ['-']) = _
    simp only [outerTurn_concat, outerTurn_nil]
    show 0 + amount 0 + 0 + 0 + 0 + 0 + 0 + -amount 2 = amount 0 - amount 2
    ring
  have hdraw := turtle.heading_draw hword ⟨40, 40⟩ (-90) (Keystream.ofSeed 5)
  rw [hsum] at hdraw
  exact ⟨hword, hdraw⟩

end Turtle

end Camouflage
