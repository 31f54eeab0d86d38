/-
Camouflage/Proofs/Turtle/PenUp.lean

A turtle that starts with its pen up.  No command is about the pen, but two of them
touch it: a wrap and a close lift it for a jump of their own and lower it behind the
jump, whatever it was before.  So such a turtle draws nothing for a while only.

Up to the first wrap or close its walk is *quiet*: no line has been drawn, and the
pen is still up (`quiet_or_lowered`).  Behind it the pen is down, and stays down, and
every further step draws its line.  A word is drawn without any line, and leaves the
pen up, exactly if it has no close and no step of it wraps (`draw_penUp`).
-/
import Camouflage.Number.Binary64
import Camouflage.Proofs.Turtle.BranchStack
import Camouflage.Proofs.Turtle.Movements
import Camouflage.Random.ChaCha

namespace Camouflage

variable {α σ : Type}

/-! ### Quiet walks -/

/-- No line is among these movements. -/
def NoLines (events : Array (PathEvent α)) : Prop := ∀ p, .lineTo p ∉ events

theorem NoLines.pushJump {events : Array (PathEvent α)} (h : NoLines events) (q : Point α) :
    NoLines (events.push (.moveTo q)) := by
  intro p hp
  rcases Array.mem_push.1 hp with hbefore | hjump
  · exact h p hbefore
  · cases hjump

namespace Walk

/-- Nothing has been drawn or wrapped so far, and the pen is up. -/
structure Quiet (walk : Walk α) : Prop where
  penUp : walk.pose.penDown = false
  noLine : NoLines walk.events
  unwrapped : walk.wraps = 0

/-- Nothing has been drawn so far, but a symbol has just lowered the pen: a close, or a step that
was wrapped. -/
structure Lowered (walk : Walk α) (symbol : Char) : Prop where
  penDown : walk.pose.penDown = true
  noLine : NoLines walk.events
  cause : symbol = ']' ∧ walk.wraps = 0 ∨ symbol = 'F' ∧ walk.wraps = 1

theorem quiet_begin {pose : Pose α} (hpen : pose.penDown = false) : (begin pose).Quiet where
  penUp := hpen
  noLine p hp := by cases Array.mem_singleton.1 hp
  unwrapped := rfl

/-- A walk without lines has no segments. -/
theorem segments_eq_zero {walk : Walk α} (h : NoLines walk.events) :
    walk.segments = 0 := by
  refine Array.countP_eq_zero.2 fun event hevent => ?_
  cases event with
  | moveTo p => exact Bool.false_ne_true
  | lineTo p => exact absurd hevent (h p)

/-- With the pen up a step forward is a jump.  The wrap, if there is one, lowers the pen. -/
theorem Quiet.forward [Scalar α] [Compass α] {walk : Walk α} (h : walk.Quiet) (turtle : Turtle α) :
    (walk.forward turtle).Quiet ∨ (walk.forward turtle).Lowered 'F' := by
  obtain ⟨⟨position, heading, penDown⟩, saved, events, wraps⟩ := walk
  obtain rfl : penDown = false := h.penUp
  obtain rfl : wraps = 0 := h.unwrapped
  have hjump := h.noLine.pushJump
  rw [Walk.forward]
  split
  · exact .inl ⟨rfl, hjump _, rfl⟩
  · exact .inr ⟨rfl, (hjump _).pushJump _, .inr ⟨rfl, rfl⟩⟩

end Walk

namespace Turtle

variable [RandomSource σ] [Scalar α] [Compass α] [Sampling α] {turtle : Turtle α}

/-! ### The first symbol that lowers the pen -/

/-- **One step.**  A command leaves a walk quiet and is no close, or it lowers the pen. -/
theorem Moves.quiet_or_lowered {walk walk' : Walk α} {command : Command} {s s' : σ}
    (h : turtle.Moves walk s command walk' s') (hquiet : walk.Quiet) :
    walk'.Quiet ∧ command.symbol ≠ ']' ∨ walk'.Lowered command.symbol := by
  cases h with
  | forward => exact (hquiet.forward turtle).imp_left fun hstill => ⟨hstill, by decide⟩
  | turnRight => exact .inl ⟨⟨hquiet.penUp, hquiet.noLine, hquiet.unwrapped⟩, by decide⟩
  | turnLeft => exact .inl ⟨⟨hquiet.penUp, hquiet.noLine, hquiet.unwrapped⟩, by decide⟩
  | branchOpen => exact .inl ⟨⟨hquiet.penUp, hquiet.noLine, hquiet.unwrapped⟩, by decide⟩
  | branchClose _ =>
    exact .inr ⟨rfl, hquiet.noLine.pushJump _, .inl ⟨rfl, hquiet.unwrapped⟩⟩

/-- A run over `front` gets to a quiet walk, and there `symbol` lowers the pen. -/
def LowersPen (turtle : Turtle α) (walk : Walk α) (s : σ) (front : Word) (symbol : Char)
    (after : Walk α) (t : σ) : Prop :=
  ∃ before t₀, turtle.run front walk s = .ok (before, t₀) ∧ before.Quiet ∧
    turtle.run [symbol] before t₀ = .ok (after, t) ∧ after.Lowered symbol

theorem LowersPen.lowered {walk after : Walk α} {s t : σ} {front : Word} {symbol : Char}
    (h : turtle.LowersPen walk s front symbol after t) : after.Lowered symbol := by
  obtain ⟨_, _, -, -, -, hlowered⟩ := h
  exact hlowered

/-- What is run before does not matter, as long as it ends in the quiet walk. -/
theorem LowersPen.of_run {walk walk₁ after : Walk α} {s s₁ t : σ} {word front : Word} {symbol : Char}
    (h : turtle.LowersPen walk₁ s₁ front symbol after t)
    (hrun : turtle.run word walk s = .ok (walk₁, s₁)) :
    turtle.LowersPen walk s (word ++ front) symbol after t := by
  obtain ⟨before, t₀, hfront, hlowers⟩ := h
  refine ⟨before, t₀, ?_, hlowers⟩
  rw [run_append, hrun]
  exact hfront

/-- A whole run goes on from where the pen has been lowered. -/
theorem LowersPen.run_back {walk after : Walk α} {s t : σ} {front : Word} {symbol : Char}
    (h : turtle.LowersPen walk s front symbol after t) (back : Word) :
    turtle.run (front ++ symbol :: back) walk s = turtle.run back after t := by
  obtain ⟨before, t₀, hfront, -, hsymbol, -⟩ := h
  rw [run_append, hfront]
  show turtle.run ([symbol] ++ back) before t₀ = _
  rw [run_append, hsymbol]
  rfl

/-- **Whole runs.**  A run from a quiet walk stays quiet and has come to no close, or there is a first
symbol that lowers the pen. -/
theorem quiet_or_lowered {word : Word} {walk walk' : Walk α} {s s' : σ}
    (h : turtle.run word walk s = .ok (walk', s')) (hquiet : walk.Quiet) :
    walk'.Quiet ∧ ']' ∉ word ∨
      ∃ front symbol back after t, word = front ++ symbol :: back ∧
        turtle.LowersPen walk s front symbol after t := by
  refine turtle.run_induction (motive := fun word walk s => walk.Quiet →
    walk'.Quiet ∧ ']' ∉ word ∨
      ∃ front symbol back after t, word = front ++ symbol :: back ∧
        turtle.LowersPen walk s front symbol after t) ?_ ?_ ?_ h hquiet
  · intro hend
    exact .inl ⟨hend, List.not_mem_nil⟩
  · intro symbol word walk s hsymbol ih hquiet
    have hclose : symbol ≠ ']' := Command.ne_symbol_of_none hsymbol .branchClose
    rcases ih hquiet with ⟨hend, hnone⟩ | ⟨front, low, back, after, t, rfl, hlowers⟩
    · exact .inl ⟨hend, List.not_mem_cons_of_ne_of_not_mem hclose.symm hnone⟩
    · exact .inr ⟨symbol :: front, low, back, after, t, rfl,
        hlowers.of_run (turtle.run_cons_of_none hsymbol [] walk s)⟩
  · intro command word walk walk₁ s s₁ hmoves ih hquiet
    have hcommand := turtle.run_cons_of_moves hmoves []
    rcases hmoves.quiet_or_lowered hquiet with ⟨hstill, hclose⟩ | hlowered
    · rcases ih hstill with ⟨hend, hnone⟩ | ⟨front, low, back, after, t, rfl, hlowers⟩
      · exact .inl ⟨hend, List.not_mem_cons_of_ne_of_not_mem hclose.symm hnone⟩
      · exact .inr ⟨command.symbol :: front, low, back, after, t, rfl, hlowers.of_run hcommand⟩
    · -- this very command lowers the pen
      exact .inr ⟨[], command.symbol, word, walk₁, s₁, rfl, walk, s, rfl, hquiet, hcommand, hlowered⟩

/-! ### What is drawn -/

/-- **A pen that starts up.**  A word is drawn without a line, and leaves the pen up, exactly if it
has no close and none of its steps wraps.  Otherwise nothing is drawn up to its first close or wrap,
which lowers the pen; from there on the pen is down, and every step draws one line. -/
theorem draw_penUp (turtle : Turtle α) {symbols : Word} {pose : Pose α} {walk : Walk α} {s s' : σ}
    (hpen : pose.penDown = false) (h : turtle.draw symbols pose s = .ok (walk, s')) :
    (walk.Quiet ↔ ']' ∉ symbols ∧ walk.wraps = 0) ∧
    (¬ walk.Quiet → walk.pose.penDown = true ∧
      ∃ front symbol back after t, symbols = front ++ symbol :: back ∧
        turtle.LowersPen (Walk.begin pose) s front symbol after t ∧
        walk.segments = back.count 'F') := by
  rcases quiet_or_lowered h (Walk.quiet_begin hpen) with ⟨hquiet, hnone⟩ |
    ⟨front, symbol, back, after, t, rfl, hlowers⟩
  · exact ⟨iff_of_true hquiet ⟨hnone, hquiet.unwrapped⟩, absurd hquiet⟩
  · rw [draw, hlowers.run_back] at h
    have hlowered := hlowers.lowered
    have hdown := penDown_run h hlowered.penDown
    have hsegments : walk.segments = back.count 'F' := by
      rw [segments_run h hlowered.penDown, Walk.segments_eq_zero hlowered.noLine, Nat.zero_add]
    obtain ⟨_, _, -, hwraps, -⟩ := exists_added_of_run h hlowered.penDown
    refine ⟨iff_of_false (fun hquiet => ?_) ?_, fun _ => ⟨hdown, ?_⟩⟩
    · rw [hquiet.penUp] at hdown
      cases hdown
    · rintro ⟨hnone, hunwrapped⟩
      rcases hlowered.cause with ⟨rfl, -⟩ | ⟨-, hone⟩
      · exact hnone (List.mem_append_right front List.mem_cons_self)
      · omega
    · exact ⟨front, symbol, back, after, t, rfl, hlowers, hsegments⟩

/-- The statement at a word with a close, of which it does not matter whether its steps wrap: the
pen is down in the end. -/
theorem draw_penUp_branch :
    let turtle : Turtle Float := ⟨⟨25, 700, 10⟩, .ofSize 320 200, .modulo⟩
    let pose : Pose Float := ⟨⟨40, 40⟩, 10, false⟩
    let s := Keystream.ofSeed 5
    pose.penDown = false ∧ ∃ walk s', turtle.draw "[F]F".toList pose s = .ok (walk, s') ∧
      walk.pose.penDown = true ∧
      ∃ front symbol back after t, "[F]F".toList = front ++ symbol :: back ∧
        turtle.LowersPen (Walk.begin pose) s front symbol after t ∧
        walk.segments = back.count 'F' := by
  intro turtle pose s
  have hword : checkBranches "[F]F".toList = .ok () := by rfl
  obtain ⟨walk, s', hdraw, -⟩ := turtle.exists_draw_of_ok hword pose s
  obtain ⟨hquiet, hlowered⟩ := turtle.draw_penUp rfl hdraw
  have hnot : ¬ walk.Quiet := by
    rw [hquiet]
    rintro ⟨hnone, -⟩
    exact hnone (by decide)
  exact ⟨rfl, walk, s', hdraw, hlowered hnot⟩

/-! ### A line behind a branch -/

omit [Sampling α] in
/-- With the pen down a step forward draws its line, wrapped or not. -/
theorem line_mem_forward {walk : Walk α} (hpen : walk.pose.penDown = true) :
    .lineTo (walk.pose.ahead turtle.params.length) ∈ (walk.forward turtle).events := by
  rw [Walk.forward, ← Pose.travelEvent_of_penDown hpen]
  split
  · exact Array.mem_push_self
  · exact Array.mem_push_of_mem _ Array.mem_push_self

/-- A branch lowers the pen even if there is nothing in it, and the step behind it draws a line. -/
theorem draw_penUp_line :
    let turtle : Turtle Float := ⟨⟨0, 20, 0⟩, .ofSize 600 600, .singleFold⟩
    let pose : Pose Float := ⟨⟨0, 0⟩, 0, false⟩
    pose.penDown = false ∧ ∃ walk s',
      turtle.draw "[]F".toList pose (Keystream.ofSeed 1) = .ok (walk, s') ∧
      (∃ p, .lineTo p ∈ walk.events) ∧ walk.pose.penDown = true := by
  intro turtle pose
  let behind : Walk Float := ⟨{ pose with penDown := true }, [],
    #[.moveTo pose.position, .moveTo pose.position], 0⟩
  have hstep : turtle.run ['F'] behind (Keystream.ofSeed 1)
      = .ok (behind.forward turtle, Keystream.ofSeed 1) := rfl
  exact ⟨rfl, behind.forward turtle, Keystream.ofSeed 1, rfl, ⟨_, line_mem_forward rfl⟩,
    penDown_run hstep rfl⟩

end Turtle

end Camouflage
