/-
Camouflage/Proofs/Turtle/Branches.lean

A branch puts the turtle back.  Between `[` and `]` a word may do whatever it
likes, provided that its own brackets match: behind the close the walk is in the
pose that it had before the open, with the pen down and with the same poses saved
(`run_branch`).  The pose is not computed back, it is the one that was saved, so
no rounding and no wrap can get in between.

A run only ever looks at the top of the stack.  What it pops was there when it
began or has been pushed by itself, so a run from a walk is also a run of any walk
that this one has been laid upon, which keeps below and in front of the run
whatever it had (`run_upon`).  Inside a branch, the run of the word alone is laid
upon a walk that has the pose before the branch on top of its stack; as it leaves
nothing of its own on the stack, this pose is what the close finds.
-/
import Camouflage.Number.Binary64
import Camouflage.Proofs.Turtle.BranchStack
import Camouflage.Random.ChaCha

namespace Camouflage

variable {α σ : Type}

namespace Walk

/-- A walk that has not done anything yet. -/
def fresh (pose : Pose α) : Walk α := ⟨pose, [], #[], 0⟩

/-- A walk as the continuation of another one, which has saved, moved and wrapped before it. -/
def upon (walk base : Walk α) : Walk α :=
  ⟨walk.pose, walk.saved ++ base.saved, base.events ++ walk.events, base.wraps + walk.wraps⟩

/-- A walk continues itself without having done anything. -/
theorem fresh_upon (walk : Walk α) : (fresh walk.pose).upon walk = walk := by
  simp [fresh, upon]

theorem forward_upon [Scalar α] [Compass α] (turtle : Turtle α) (walk base : Walk α) :
    (walk.upon base).forward turtle = (walk.forward turtle).upon base := by
  -- whether the step leaves the canvas depends on the pose alone
  by_cases h : turtle.canvas.contains (walk.pose.ahead turtle.params.length) = true
  · simp [forward, upon, h]
  · simp [forward, upon, h, Nat.add_assoc]

end Walk

namespace Turtle

variable [RandomSource σ] [Scalar α] [Compass α] [Sampling α] {turtle : Turtle α}

/-! ### What lies below a run -/

/-- **One step.**  A command does the same to a walk that continues another one. -/
theorem Moves.upon {walk walk' : Walk α} {command : Command} {s s' : σ}
    (h : turtle.Moves walk s command walk' s') (base : Walk α) :
    turtle.Moves (walk.upon base) s command (walk'.upon base) s' := by
  cases h with
  | forward =>
    rw [← Walk.forward_upon]
    exact .forward
  | turnRight => exact .turnRight
  | turnLeft => exact .turnLeft
  | branchOpen => exact .branchOpen
  | @branchClose pose saved hsaved =>
    have htop : (walk.upon base).saved = pose :: (saved ++ base.saved) := by
      rw [Walk.upon, hsaved, List.cons_append]
    have hclose : turtle.Moves (walk.upon base) s .branchClose _ s := .branchClose htop
    simpa [Walk.upon] using hclose

/-- **Whole runs.**  A run that ends does so on top of any other walk, and leaves to this one what
it has saved, moved and wrapped. -/
theorem run_upon {word : Word} {walk walk' : Walk α} {s s' : σ}
    (h : turtle.run word walk s = .ok (walk', s')) (base : Walk α) :
    turtle.run word (walk.upon base) s = .ok (walk'.upon base, s') := by
  refine turtle.run_induction (motive := fun word walk s =>
    turtle.run word (walk.upon base) s = .ok (walk'.upon base, s')) rfl ?_ ?_ h
  · intro symbol word walk s hsymbol ih
    rw [run_cons_of_none turtle hsymbol, ih]
  · intro command word walk walk₁ s s₁ hmoves ih
    rw [turtle.run_cons_of_moves (hmoves.upon base), ih]

/-! ### Words whose brackets match -/

/-- With as many poses saved as the check of a word needs, the word is run to its end and uses them
all up. -/
theorem exists_run_of_check {index : Nat} {word : Word} {walk : Walk α}
    (h : checkBranchesFrom index walk.saved.length word = .ok ()) (s : σ) :
    ∃ walk' s', turtle.run word walk s = .ok (walk', s') ∧ walk'.saved = [] := by
  cases hrun : turtle.run word walk s with
  | error fault =>
    -- the run would fail at a close, and the check at the same one
    obtain ⟨front, rest, walk', s', rfl, hfront, hsaved⟩ := turtle.run_eq_error hrun
    rw [turtle.checkBranchesFrom_run hfront, hsaved, List.length_nil,
      checkBranchesFrom_close_zero] at h
    cases h
  | ok p =>
    obtain ⟨walk', s'⟩ := p
    have hcheck := turtle.checkBranchesFrom_run hrun index []
    rw [List.append_nil, h, checkBranchesFrom_nil] at hcheck
    split at hcheck
    · next hnone => exact ⟨walk', s', rfl, List.eq_nil_of_length_eq_zero hnone⟩
    · cases hcheck

/-- A word whose brackets match is run to its end from every walk.  It adds to the movements and to
the wraps, and leaves the saved poses as they are. -/
theorem exists_run_of_ok {word : Word} (h : checkBranches word = .ok ()) (walk : Walk α) (s : σ) :
    ∃ pose added wraps s', turtle.run word walk s
      = .ok (⟨pose, walk.saved, walk.events ++ added, walk.wraps + wraps⟩, s') := by
  have hcheck : checkBranchesFrom 0 (Walk.fresh walk.pose).saved.length word = .ok () := h
  obtain ⟨⟨pose, saved, added, wraps⟩, s', hrun, hsaved⟩ :=
    exists_run_of_check hcheck s
  obtain rfl : saved = [] := hsaved
  have hupon := turtle.run_upon hrun walk
  rw [Walk.fresh_upon] at hupon
  exact ⟨pose, added, wraps, s', hupon⟩

/-! ### Branches -/

/-- **Branches restore exactly.**  A branch around a word whose brackets match never fails, whatever
the walk before it, the parameters, the canvas, the wrap mode and the random words.  Behind it the
turtle has the position and the heading it had before, with the pen down, the poses saved before are
saved, and the last movement is a jump to this position. -/
theorem run_branch (turtle : Turtle α) {word : Word} (h : checkBranches word = .ok ())
    (walk : Walk α) (s : σ) :
    ∃ added wraps s', turtle.run ('[' :: (word ++ [']'])) walk s
      = .ok (⟨⟨walk.pose.position, walk.pose.heading, true⟩, walk.saved,
          (walk.events ++ added).push (.moveTo walk.pose.position), walk.wraps + wraps⟩, s') := by
  -- the open saves the pose, and the word leaves it on top of the stack
  obtain ⟨pose, added, wraps, s', hword⟩ :=
    turtle.exists_run_of_ok h { walk with saved := walk.pose :: walk.saved } s
  refine ⟨added, wraps, s', ?_⟩
  show turtle.run (word ++ [']']) { walk with saved := walk.pose :: walk.saved } s = _
  rw [run_append, hword]
  rfl

/-- The statement at a turtle whose steps are longer than its canvas, with its pen up, a pose saved
before and a branch inside the branch. -/
theorem run_branch_nested : checkBranches "F+F[-F]F".toList = .ok () ∧
    ∃ added wraps s', Turtle.run ⟨⟨25, 700, 10⟩, .ofSize 320 200, .modulo⟩ "[F+F[-F]F]".toList
        (⟨⟨⟨40, 40⟩, 10, false⟩, [⟨⟨0, 0⟩, 90, true⟩], #[], 0⟩ : Walk Float) (Keystream.ofSeed 5)
      = .ok (⟨⟨⟨40, 40⟩, 10, true⟩, [⟨⟨0, 0⟩, 90, true⟩],
          (#[] ++ added).push (.moveTo ⟨40, 40⟩), 0 + wraps⟩, s') := by
  have hcheck : checkBranches "F+F[-F]F".toList = .ok () := by rfl
  exact ⟨hcheck, run_branch ⟨⟨25, 700, 10⟩, .ofSize 320 200, .modulo⟩ hcheck
    ⟨⟨⟨40, 40⟩, 10, false⟩, [⟨⟨0, 0⟩, 90, true⟩], #[], 0⟩ (Keystream.ofSeed 5)⟩

end Turtle

end Camouflage
