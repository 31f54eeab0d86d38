/-
Camouflage/Proofs/Turtle/Composition.lean

Drawing is compositional.  If the brackets of a word match, drawing it and a second
word behind it is drawing the one and then, from the pose in which that ends, the
other (`draw_append`).  Nothing is passed on but this pose and the stream: a walk
that has nothing saved is continued by any word just as a walk that has only begun.

What a run does on top of another walk is known as far as it succeeds (`run_upon`).
In general it may get further there than by itself, as a close may find a pose that
was saved before.  On top of a walk that has nothing saved it may not, so there the
two are alike in failing as well (`run_upon_of_saved_nil`).
-/
import Camouflage.Proofs.Turtle.Branches

namespace Camouflage

variable {α σ : Type}

/-! ### One walk behind another -/

/-- `whole` is `front` and then `back`, which begins where `front` ends.  Of what `back` has done,
the jump to its start is left out. -/
structure Walk.Joined (front back whole : Walk α) : Prop where
  pose : whole.pose = back.pose
  saved : whole.saved = back.saved
  events : ∃ added, back.events = #[.moveTo front.pose.position] ++ added ∧
    whole.events = front.events ++ added
  wraps : whole.wraps = front.wraps + back.wraps
  segments : whole.segments = front.segments + back.segments

namespace Walk

theorem segments_upon (walk base : Walk α) :
    (walk.upon base).segments = base.segments + walk.segments :=
  Array.countP_append

/-- What goes on behind a walk with nothing saved is joined to it by whatever has begun where it
ended and then does the same. -/
theorem joined_upon (later front : Walk α) (hsaved : front.saved = []) :
    front.Joined (later.upon (begin front.pose)) (later.upon front) where
  pose := rfl
  saved := congrArg (later.saved ++ ·) hsaved
  events := ⟨later.events, rfl, rfl⟩
  wraps := congrArg (front.wraps + ·) (Nat.zero_add later.wraps).symm
  segments := by
    have hbegin : (begin front.pose).segments = 0 := rfl
    rw [segments_upon, segments_upon, hbegin, Nat.zero_add]

end Walk

namespace Turtle

variable [RandomSource σ] [Scalar α] [Compass α] [Sampling α] {turtle : Turtle α}

/-! ### Runs on top of nothing -/

/-- A run that gets to a close with nothing saved fails there. -/
theorem run_close {front : Word} {walk walk' : Walk α} {s s' : σ}
    (h : turtle.run front walk s = .ok (walk', s')) (hsaved : walk'.saved = []) (rest : Word) :
    turtle.run (front ++ ']' :: rest) walk s = .error (.grammar .emptyBranchStack) := by
  obtain ⟨pose, saved, events, wraps⟩ := walk'
  obtain rfl : saved = [] := hsaved
  rw [run_append, h]
  rfl

/-- **Runs on top of nothing.**  On top of a walk that has nothing saved a run does what it does by
itself, and fails where it fails by itself. -/
theorem run_upon_of_saved_nil {base : Walk α} (hbase : base.saved = []) (word : Word)
    (walk : Walk α) (s : σ) :
    turtle.run word (walk.upon base) s
      = (turtle.run word walk s).map fun p => (p.1.upon base, p.2) := by
  cases hrun : turtle.run word walk s with
  | ok p => exact run_upon hrun base
  | error fault =>
    obtain ⟨front, rest, walk', s', rfl, hfront, hsaved⟩ := turtle.run_eq_error hrun
    have hupon : (walk'.upon base).saved = [] := by
      rw [Walk.upon, hsaved, hbase]
      rfl
    -- both runs get to the same close, and neither finds anything there
    rw [run_close hfront hsaved] at hrun
    cases hrun
    exact run_close (run_upon hfront base) hupon rest

/-- A walk with nothing saved is continued as one that begins where it ends. -/
theorem run_of_saved_nil {walk : Walk α} (hsaved : walk.saved = []) (word : Word) (s : σ) :
    turtle.run word walk s
      = (turtle.run word (Walk.fresh walk.pose) s).map fun p => (p.1.upon walk, p.2) := by
  rw [← run_upon_of_saved_nil hsaved, Walk.fresh_upon]

/-! ### One word behind another -/

/-- **Drawing is compositional.**  A word whose brackets match is drawn, from every pose and with
every stream.  With a second word behind it the whole is drawn exactly if the second word is, from
the pose in which the first one ends and with the stream it leaves; the walk is then the first one
and the second one joined, and the stream is left as the second one leaves it. -/
theorem draw_append (turtle : Turtle α) {front : Word} (h : checkBranches front = .ok ())
    (back : Word) (pose : Pose α) (s : σ) :
    ∃ walk s', turtle.draw front pose s = .ok (walk, s') ∧
      ((∃ p, turtle.draw (front ++ back) pose s = .ok p) ↔
        ∃ p, turtle.draw back walk.pose s' = .ok p) ∧
      ∀ walk' s'', turtle.draw back walk.pose s' = .ok (walk', s'') →
        ∃ whole, turtle.draw (front ++ back) pose s = .ok (whole, s'') ∧
          walk.Joined walk' whole := by
  obtain ⟨walk, s', hfront, hsaved⟩ := turtle.exists_draw_of_ok h pose s
  have hwhole : turtle.draw (front ++ back) pose s
      = (turtle.run back (Walk.fresh walk.pose) s').map fun p => (p.1.upon walk, p.2) := by
    rw [draw] at hfront ⊢
    rw [run_append, hfront]
    exact run_of_saved_nil hsaved back s'
  have hback : turtle.draw back walk.pose s'
      = (turtle.run back (Walk.fresh walk.pose) s').map
          fun p => (p.1.upon (Walk.begin walk.pose), p.2) :=
    run_of_saved_nil rfl back s'
  refine ⟨walk, s', hfront, ?_⟩
  rw [hwhole, hback]
  cases turtle.run back (Walk.fresh walk.pose) s' with
  | error fault =>
    refine ⟨iff_of_false ?_ ?_, ?_⟩
    · rintro ⟨p, hp⟩
      cases hp
    · rintro ⟨p, hp⟩
      cases hp
    · intro walk' s'' hp
      cases hp
  | ok p =>
    refine ⟨iff_of_true ⟨_, rfl⟩ ⟨_, rfl⟩, ?_⟩
    intro walk' s'' hp
    cases hp
    exact ⟨p.1.upon walk, rfl, p.1.joined_upon walk hsaved⟩

/-- The statement at a turtle whose steps are longer than its canvas and at a second word that goes
on inside a branch. -/
theorem draw_append_unclosed :
    let turtle : Turtle Float := ⟨⟨25, 700, 10⟩, .ofSize 320 200, .modulo⟩
    let pose : Pose Float := ⟨⟨40, 40⟩, 10, false⟩
    checkBranches "F[+F]-".toList = .ok () ∧
      ∃ walk s' walk' s'' whole,
        turtle.draw "F[+F]-".toList pose (Keystream.ofSeed 5) = .ok (walk, s') ∧
        turtle.draw "F[-F".toList walk.pose s' = .ok (walk', s'') ∧ walk'.saved.length = 1 ∧
        turtle.draw ("F[+F]-".toList ++ "F[-F".toList) pose (Keystream.ofSeed 5)
          = .ok (whole, s'') ∧
        walk.Joined walk' whole := by
  intro turtle pose
  have hfront : checkBranches "F[+F]-".toList = .ok () := by rfl
  have hback : checkBranches "F[-F".toList = .error (.grammar (.unclosedOpens 1)) := by rfl
  obtain ⟨walk, s', hdraw, -, hjoined⟩ :=
    turtle.draw_append hfront "F[-F".toList pose (Keystream.ofSeed 5)
  obtain ⟨walk', s'', hdraw', hsaved⟩ := turtle.exists_draw_of_unclosed hback walk.pose s'
  obtain ⟨whole, hwhole, hjoin⟩ := hjoined walk' s'' hdraw'
  exact ⟨hfront, walk, s', walk', s'', whole, hdraw, hdraw', hsaved, hwhole, hjoin⟩

end Turtle

end Camouflage
