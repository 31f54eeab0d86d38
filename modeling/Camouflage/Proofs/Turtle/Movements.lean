/-
Camouflage/Proofs/Turtle/Movements.lean

What a walk leaves behind.  While the pen is down a command adds very little to
the movements so far (`Adds`): a step forward adds a line, and a jump if it was
wrapped; a close adds a jump; nothing else adds anything.  And the pen is down
again after every command (`adds_of_moves`), because wraps and closes lift it for
their own jump only.

So the lines of a walk are the steps of its word, and its jumps are the one to
the start, one for every close and one for every wrap (`draw_movements`).
-/
import Camouflage.Proofs.Turtle.Run

namespace Camouflage

/-- Whether a movement is a jump. -/
def PathEvent.isMove {α : Type} (event : PathEvent α) : Bool := !event.isLine

theorem Pose.travelEvent_of_penDown {α : Type} {pose : Pose α} (hpen : pose.penDown = true)
    (target : Point α) : pose.travelEvent target = .lineTo target := by
  rw [travelEvent, if_pos hpen]

namespace Turtle

variable {α σ : Type} [RandomSource σ] [Scalar α] [Compass α] [Sampling α]
variable (turtle : Turtle α)

/-! ### One command -/

/-- What a command adds to the movements of a turtle whose pen is down, where that takes the turtle,
and how many wraps there are among it. -/
inductive Adds (pose : Pose α) : Command → List (PathEvent α) → Point α → Nat → Prop
  /-- a step that stays on the canvas -/
  | stepped : Adds pose .forward [.lineTo (pose.ahead turtle.params.length)]
      (pose.ahead turtle.params.length) 0
  /-- a step that leaves it -/
  | wrapped (inside : Point α) : Adds pose .forward
      [.lineTo (pose.ahead turtle.params.length), .moveTo inside] inside 1
  /-- the end of a branch -/
  | restored (position : Point α) : Adds pose .branchClose [.moveTo position] position 0
  /-- anything else -/
  | still {command : Command} (hforward : command ≠ .forward) (hclose : command ≠ .branchClose) :
      Adds pose command [] pose.position 0

variable {turtle}

omit [Sampling α] in
/-- A step forward adds a line, and a jump if it was wrapped. -/
theorem adds_forward {walk : Walk α} (hpen : walk.pose.penDown = true) :
    ∃ added wraps,
      turtle.Adds walk.pose .forward added (walk.forward turtle).pose.position wraps ∧
      (walk.forward turtle).events.toList = walk.events.toList ++ added ∧
      (walk.forward turtle).wraps = walk.wraps + wraps ∧
      (walk.forward turtle).pose.penDown = true := by
  rw [Walk.forward]
  split
  · refine ⟨_, _, .stepped, ?_, rfl, hpen⟩
    rw [Pose.travelEvent_of_penDown hpen, Array.toList_push]
  · refine ⟨_, _, .wrapped _, ?_, rfl, rfl⟩
    rw [Pose.travelEvent_of_penDown hpen, Array.toList_push, Array.toList_push, List.append_assoc]
    rfl

/-- **One step.**  With the pen down a command adds no more than that, and the pen stays down. -/
theorem adds_of_moves {walk walk' : Walk α} {command : Command} {s s' : σ}
    (h : turtle.Moves walk s command walk' s') (hpen : walk.pose.penDown = true) :
    ∃ added wraps, turtle.Adds walk.pose command added walk'.pose.position wraps ∧
      walk'.events.toList = walk.events.toList ++ added ∧ walk'.wraps = walk.wraps + wraps ∧
      walk'.pose.penDown = true := by
  have hnone : walk.events.toList = walk.events.toList ++ [] := (List.append_nil _).symm
  cases h with
  | forward => exact adds_forward hpen
  | turnRight => exact ⟨[], 0, .still (by decide) (by decide), hnone, rfl, hpen⟩
  | turnLeft => exact ⟨[], 0, .still (by decide) (by decide), hnone, rfl, hpen⟩
  | branchOpen => exact ⟨[], 0, .still (by decide) (by decide), hnone, rfl, hpen⟩
  | branchClose => exact ⟨_, 0, .restored _, Array.toList_push, rfl, rfl⟩

omit [Sampling α] in
/-- The lines and the jumps a command adds are counted by its symbol. -/
theorem Adds.counts {pose : Pose α} {command : Command} {added : List (PathEvent α)}
    {position : Point α} {wraps : Nat} (h : turtle.Adds pose command added position wraps) :
    added.countP PathEvent.isLine = [command.symbol].count 'F' ∧
      added.countP PathEvent.isMove = [command.symbol].count ']' + wraps := by
  cases h with
  | stepped => exact ⟨rfl, rfl⟩
  | wrapped inside => exact ⟨rfl, rfl⟩
  | restored position => exact ⟨rfl, rfl⟩
  | still hforward hclose =>
    cases command with
    | forward => exact absurd rfl hforward
    | branchClose => exact absurd rfl hclose
    | turnRight => exact ⟨rfl, rfl⟩
    | turnLeft => exact ⟨rfl, rfl⟩
    | branchOpen => exact ⟨rfl, rfl⟩

/-! ### Whole runs -/

/-- Once the pen is down it stays down. -/
theorem penDown_run {word : Word} {walk walk' : Walk α} {s s' : σ}
    (h : turtle.run word walk s = .ok (walk', s')) (hpen : walk.pose.penDown = true) :
    walk'.pose.penDown = true := by
  refine turtle.run_induction (motive := fun _ walk _ =>
    walk.pose.penDown = true → walk'.pose.penDown = true) id ?_ ?_ h hpen
  · intro symbol word walk s _ ih
    exact ih
  · intro command word walk walk₁ s s₁ hmoves ih hpen
    obtain ⟨-, -, -, -, -, hpen₁⟩ := adds_of_moves hmoves hpen
    exact ih hpen₁

/-- With the pen down a run only adds to the movements, one command after the other.  So what holds
at its end with nothing added, and goes from the rest of a word to a longer one with what the
command adds put in front, holds where the run begins of all that it adds. -/
theorem run_added_induction {walk' : Walk α} {s' : σ}
    {motive : Word → Walk α → σ → List (PathEvent α) → Nat → Prop}
    (nil : motive [] walk' s' [] 0)
    (pass : ∀ {symbol word walk s added wraps}, Command.ofSymbol? symbol = none →
      motive word walk s added wraps → motive (symbol :: word) walk s added wraps)
    (move : ∀ {command word walk walk₁ s s₁ front back n m}, turtle.Moves walk s command walk₁ s₁ →
      turtle.Adds walk.pose command front walk₁.pose.position n → motive word walk₁ s₁ back m →
      motive (command.symbol :: word) walk s (front ++ back) (n + m))
    {word : Word} {walk : Walk α} {s : σ} (h : turtle.run word walk s = .ok (walk', s'))
    (hpen : walk.pose.penDown = true) :
    ∃ added wraps, walk'.events.toList = walk.events.toList ++ added ∧
      walk'.wraps = walk.wraps + wraps ∧ motive word walk s added wraps := by
  refine turtle.run_induction (motive := fun word walk s => walk.pose.penDown = true →
    ∃ added wraps, walk'.events.toList = walk.events.toList ++ added ∧
      walk'.wraps = walk.wraps + wraps ∧ motive word walk s added wraps) ?_ ?_ ?_ h hpen
  · intro _
    exact ⟨[], 0, (List.append_nil _).symm, rfl, nil⟩
  · intro symbol word walk s hsymbol ih hpen
    obtain ⟨added, wraps, hevents, hwraps, hmotive⟩ := ih hpen
    exact ⟨added, wraps, hevents, hwraps, pass hsymbol hmotive⟩
  · intro command word walk walk₁ s s₁ hmoves ih hpen
    obtain ⟨front, n, hadds, hevents, hwraps, hpen₁⟩ := adds_of_moves hmoves hpen
    -- the pen is down again, so the rest of the word only adds, too
    obtain ⟨back, m, hevents', hwraps', hmotive⟩ := ih hpen₁
    refine ⟨front ++ back, n + m, ?_, ?_, move hmoves hadds hmotive⟩
    · rw [hevents', hevents, List.append_assoc]
    · rw [hwraps', hwraps, Nat.add_assoc]

theorem count_cons_eq (c symbol : Char) (word : Word) :
    (symbol :: word).count c = [symbol].count c + word.count c := by
  rw [← List.singleton_append, List.count_append]

/-- **Whole runs.**  A run adds a line for every step of its word, and a jump for every close and
for every wrap. -/
theorem exists_added_of_run {word : Word} {walk walk' : Walk α} {s s' : σ}
    (h : turtle.run word walk s = .ok (walk', s')) (hpen : walk.pose.penDown = true) :
    ∃ added wraps, walk'.events.toList = walk.events.toList ++ added ∧
      walk'.wraps = walk.wraps + wraps ∧
      added.countP PathEvent.isLine = word.count 'F' ∧
      added.countP PathEvent.isMove = word.count ']' + wraps := by
  refine run_added_induction (motive := fun word _ _ added wraps =>
    added.countP PathEvent.isLine = word.count 'F' ∧
      added.countP PathEvent.isMove = word.count ']' + wraps) ⟨rfl, rfl⟩ ?_ ?_ h hpen
  · intro symbol word _ _ _ _ hsymbol ih
    have hstep : symbol ≠ 'F' := Command.ne_symbol_of_none hsymbol .forward
    have hclose : symbol ≠ ']' := Command.ne_symbol_of_none hsymbol .branchClose
    rw [List.count_cons_of_ne hstep, List.count_cons_of_ne hclose]
    exact ih
  · intro command word _ _ _ _ front back n m _ hadds ih
    obtain ⟨hline, hjump⟩ := hadds.counts
    obtain ⟨hlines, hjumps⟩ := ih
    constructor
    · rw [List.countP_append, count_cons_eq, hline, hlines]
    · rw [List.countP_append, count_cons_eq, hjump, hjumps]
      omega

/-- With the pen down a run draws a line for every step of its word. -/
theorem segments_run {word : Word} {walk walk' : Walk α} {s s' : σ}
    (h : turtle.run word walk s = .ok (walk', s')) (hpen : walk.pose.penDown = true) :
    walk'.segments = walk.segments + word.count 'F' := by
  obtain ⟨added, _, hevents, -, hlines, -⟩ := exists_added_of_run h hpen
  rw [Walk.segments, PathEvent.countLines, ← Array.countP_toList, hevents, List.countP_append,
    hlines, Array.countP_toList]
  rfl

/-- **What a walk leaves behind.**  A jump to the start comes first.  There are as many lines as
steps in the word, and as many jumps as closes and wraps besides the first. -/
theorem draw_movements {symbols : Word} {pose : Pose α} {walk : Walk α} {s s' : σ}
    (h : turtle.draw symbols pose s = .ok (walk, s')) (hpen : pose.penDown = true) :
    (∃ rest, walk.events.toList = .moveTo pose.position :: rest) ∧
      walk.events.countP PathEvent.isLine = symbols.count 'F' ∧
      walk.events.countP PathEvent.isMove = 1 + symbols.count ']' + walk.wraps := by
  obtain ⟨added, wraps, hevents, hwraps, hlines, hjumps⟩ := exists_added_of_run h hpen
  have hevents : walk.events.toList = .moveTo pose.position :: added := hevents
  have hwraps : walk.wraps = wraps := hwraps.trans (Nat.zero_add wraps)
  refine ⟨⟨added, hevents⟩, ?_, ?_⟩
  · rw [← Array.countP_toList, hevents, List.countP_cons_of_neg Bool.false_ne_true, hlines]
  · rw [← Array.countP_toList, hevents, List.countP_cons_of_pos rfl, hjumps, hwraps]
    omega

end Turtle

end Camouflage
