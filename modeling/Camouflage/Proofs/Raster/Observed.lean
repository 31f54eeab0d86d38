/-
Camouflage/Proofs/Raster/Observed.lean

Watching a rasterizer.  A sink can be observed while a pattern is handed to it:
every line it is told is kept, together with what the sink was like before
(`Observed`).  Observing makes no difference to the sink (`sink_replay`).

A line that cannot be stroked puts an end to the picture, and with it to the
program, so the calls that are made are those up to the first such line
(`Observed.made`).  If there is a picture in the end, they are all the lines of the
pattern (`made_eq_calls`).

What is seen at a rasterizer is where its pen is when it is told a line.  For a
pattern that is generated, these are the steps of the turtle before any wrapping,
tree by tree (`calls_replay_generateFrom`): the pen is where the turtle departs
from, and goes to the position one step ahead.  No line is drawn where the turtle
is wrapped or taken back to the beginning of a branch, and none between trees.
-/
import Camouflage.Proofs.Pattern.Lines
import Camouflage.Proofs.Pattern.Trees
import Camouflage.Proofs.Raster.Painter
import Camouflage.Proofs.Turtle.Departures

namespace Camouflage

/-! ### Sinks -/

/-- What every movement of a tree keeps, a whole pattern keeps. -/
theorem Pattern.replay_keeps {α ς : Type} [DrawSink α ς] {P : ς → Prop}
    (htell : ∀ (tree : Tree α) (event : PathEvent α) (sink : ς), P sink → P (tree.tell sink event))
    (pattern : Pattern α) {sink : ς} (h : P (DrawSink.setBackground sink pattern.background)) :
    P (pattern.replay sink) := by
  have htree (tree : Tree α) (sink : ς) (h : P sink) : P (tree.replay sink) :=
    Array.foldl_induction (fun _ => P) h fun _ sink h => htell tree _ sink h
  exact Array.foldl_induction (fun _ => P) h fun _ sink h => htree _ sink h

/-- A line that a sink is told, and what the sink is like before. -/
structure LineCall (α ς : Type) where
  before : ς
  target : Point α
  color : Color
  thickness : Nat

/-- A sink under observation: the lines it is told are kept. -/
structure Observed (α ς : Type) where
  sink : ς
  calls : List (LineCall α ς) := []

variable {α : Type}

instance {ς : Type} [DrawSink α ς] : DrawSink α (Observed α ς) where
  setBackground o color := { o with sink := DrawSink.setBackground o.sink color }
  moveTo o p := { o with sink := DrawSink.moveTo o.sink p }
  lineTo o p color thickness :=
    ⟨DrawSink.lineTo o.sink p color thickness, o.calls ++ [⟨o.sink, p, color, thickness⟩]⟩

namespace Observed

variable {ς : Type} [DrawSink α ς]

theorem sink_replay_tree (tree : Tree α) (observed : Observed α ς) :
    (tree.replay observed).sink = tree.replay observed.sink := by
  refine (Array.foldl_hom Observed.sink ?_).symm
  intro observed event
  cases event with
  | moveTo p => rfl
  | lineTo p => rfl

/-- A sink takes a pattern the same way whether it is observed or not. -/
theorem sink_replay (pattern : Pattern α) (observed : Observed α ς) :
    (pattern.replay observed).sink = pattern.replay observed.sink := by
  refine (Array.foldl_hom Observed.sink ?_).symm
  intro observed tree
  exact (sink_replay_tree tree observed).symm

end Observed

/-! ### What is seen at a rasterizer -/

/-- What is seen when a rasterizer is told a line: the line, from where the pen is, its color and
its width. -/
def LineCall.seen (call : LineCall α (Rasterizer α)) : PenLine α × Color × Nat :=
  (⟨call.before.cursor, call.target⟩, call.color, call.thickness)

/-- What is seen of a tree with some lines. -/
def Tree.seen (tree : Tree α) (lines : List (PenLine α)) : List (PenLine α × Color × Nat) :=
  lines.map fun line => (line, tree.color, tree.thickness)

/-- The calls that are made: those that find a picture, up to the first one that would not. -/
def Observed.made (observed : Observed α (Rasterizer α)) : List (LineCall α (Rasterizer α)) :=
  observed.calls.takeWhile fun call => call.before.picture.isSome

variable {β : Type} [Scalar α] [PixelScalar β] [PixelConversion α β]

namespace Observed

/-- As long as a rasterizer has a picture, it has had one at every call. -/
def Painting (observed : Observed α (Rasterizer α)) : Prop :=
  observed.sink.picture.isSome → ∀ call ∈ observed.calls, call.before.picture.isSome

omit [Scalar α] [PixelScalar β] [PixelConversion α β] in
theorem Painting.made_eq_calls {observed : Observed α (Rasterizer α)} (h : observed.Painting)
    (hpicture : observed.sink.picture.isSome) : observed.made = observed.calls :=
  List.takeWhile_eq_self_iff.2 (h hpicture)

theorem Painting.tell {observed : Observed α (Rasterizer α)} (h : observed.Painting)
    (tree : Tree α) (event : PathEvent α) : (tree.tell observed event).Painting := by
  cases event with
  | moveTo p => exact h
  | lineTo p =>
    intro hpicture call hcall
    -- a stroke gives no picture where there was none
    have hbefore : observed.sink.picture.isSome := Option.isSome_of_isSome_bind hpicture
    rcases List.mem_append.1 hcall with hcall | hcall
    · exact h hbefore call hcall
    · rw [List.mem_singleton.1 hcall]
      exact hbefore

/-- A pattern that is watched from its beginning on keeps to this. -/
theorem painting_replay (pattern : Pattern α) (r : Rasterizer α) :
    (pattern.replay (⟨r, []⟩ : Observed α (Rasterizer α))).Painting := by
  refine pattern.replay_keeps (fun tree event _ h => h.tell tree event) ?_
  rintro - call ⟨⟩

/-! ### Calls that are seen -/

theorem seen_replay_tree (tree : Tree α) (observed : Observed α (Rasterizer α)) :
    (tree.replay observed).calls.map LineCall.seen = observed.calls.map LineCall.seen
      ++ tree.seen (PathEvent.drawn observed.sink.cursor tree.events.toList) := by
  rw [Tree.replay, ← Array.foldl_toList]
  induction tree.events.toList generalizing observed with
  | nil => exact (List.append_nil _).symm
  | cons event events ih =>
    rw [List.foldl_cons, ih]
    cases event with
    | moveTo p => rfl
    | lineTo p =>
      -- the call is kept, and the pen goes on from the end of the line
      show (observed.calls ++ [_]).map LineCall.seen ++ _ = _
      rw [List.map_append, List.append_assoc]
      rfl

/-- Trees that begin with a jump are seen one after the other, each as if it were alone. -/
theorem seen_replay (pattern : Pattern α) (hjumps : ∀ tree ∈ pattern.trees, tree.BeginsWithJump)
    (observed : Observed α (Rasterizer α)) :
    (pattern.replay observed).calls.map LineCall.seen = observed.calls.map LineCall.seen
      ++ pattern.trees.toList.flatMap fun tree => tree.seen tree.lines := by
  -- the induction is on the trees that are left, for whatever those before them have led to
  have htrees (trees : List (Tree α)) (hjumps : ∀ tree ∈ trees, tree.BeginsWithJump)
      (observed : Observed α (Rasterizer α)) :
      (trees.foldl (fun sink tree => tree.replay sink) observed).calls.map LineCall.seen
        = observed.calls.map LineCall.seen
          ++ trees.flatMap fun tree => tree.seen tree.lines := by
    induction trees generalizing observed with
    | nil => exact (List.append_nil _).symm
    | cons tree trees ih =>
      have hjump := hjumps tree List.mem_cons_self
      rw [List.foldl_cons, ih fun tree htree => hjumps tree (List.mem_cons_of_mem _ htree),
        seen_replay_tree, hjump.drawn_eq_lines, List.flatMap_cons, List.append_assoc]
  rw [Pattern.replay, ← Array.foldl_toList, htrees _ fun tree htree =>
    hjumps tree (Array.mem_toList_iff.1 htree)]
  rfl

end Observed

/-! ### Patterns that are generated -/

namespace Config

variable {σ : Type} [Compass α] [Sampling α] [RandomSource σ]
variable {config : Config α} {foreground : List Color} {symbols : Word}

omit [PixelScalar β] [PixelConversion α β] in
theorem Sprouts.beginsWithJump {tree : Tree α} {s t s' : σ}
    (h : config.Sprouts foreground symbols s tree t s') : tree.BeginsWithJump := by
  obtain ⟨walk, hdraw, hevents, -⟩ := h.walked
  obtain ⟨⟨rest, hbegins⟩, -⟩ := Turtle.draw_movements hdraw h.penDown
  exact ⟨_, rest, hevents ▸ hbegins⟩

omit [PixelScalar β] [PixelConversion α β] in
/-- Every tree of a pattern that is generated begins with a jump. -/
theorem Grown.beginsWithJump {pattern : Pattern α} {rules : RuleSet} {grown : List (Tree α × σ)}
    {s : σ} (h : config.Grown s pattern rules grown) :
    ∀ tree ∈ pattern.trees, tree.BeginsWithJump := by
  intro tree htree
  obtain ⟨_, _, _, hsprouts⟩ := h.exists_of_mem htree
  exact hsprouts.beginsWithJump

/-- The lines of a tree that sprouts are the steps of its turtle. -/
theorem Sprouts.lines {tree : Tree α} {s t s' : σ}
    (h : config.Sprouts foreground symbols s tree t s') : tree.lines =
      ((config.turtle tree.params).departures symbols (Walk.begin tree.start) t).map
        (config.turtle tree.params).stepLine := by
  obtain ⟨walk, hdraw, hevents, -⟩ := h.walked
  rw [Tree.lines, hevents]
  exact Turtle.drawn_draw hdraw h.penDown none

omit [Compass α] [Sampling α] [PixelScalar β] [PixelConversion α β] in
/-- The sides of a canvas are not zero, and they have a sum of 32 bits. -/
theorem canvas_of_validate (h : config.validate = .ok ()) :
    0 < config.canvas.width.toNat + config.canvas.height.toNat ∧
      config.canvas.width.toNat + config.canvas.height.toNat < UInt32.size := by
  rw [validate] at h
  dsimp only at h
  split at h
  · cases h
  next hcanvas =>
  have hsize : ¬ (config.canvas.width = 0 ∨ config.canvas.height = 0 ∨
      largestSide < config.canvas.width ∨ largestSide < config.canvas.height) := hcanvas
  have hlargest : largestSide.toNat = 16384 := rfl
  have hwords : UInt32.size = 4294967296 := rfl
  simp only [← UInt32.toNat_inj, UInt32.lt_iff_toNat_lt, hlargest, UInt32.toNat_zero] at hsize
  omega

/-- A pattern that is generated has a picture of the size of its canvas. -/
theorem exists_rasterize?_canvas {pattern : Pattern α} {s : σ}
    (h : config.generateFrom s = .ok pattern) : ∃ image, pattern.rasterize?
      config.canvas.width.toNat config.canvas.height.toNat = some image := by
  obtain ⟨rules, grown, hgrown⟩ := exists_grown h
  obtain ⟨hpos, hsides⟩ := canvas_of_validate hgrown.passes.valid
  exact pattern.exists_rasterize? hgrown.beginsWithJump hpos hsides

/-- **What is stroked is what is walked.**  A rasterizer of any size is told the lines of a pattern
tree by tree.  In each call that is made the pen is where the turtle is immediately before a step,
and the line goes to the position ahead of it, by the length of the tree and along the heading of
that moment; the calls are those for the steps in their order.  There is one for every step if the
picture is finished, which it always is if its sides are not both zero and have a sum of 32 bits. -/
theorem calls_replay_generateFrom {pattern : Pattern α} {s : σ}
    (h : config.generateFrom s = .ok pattern) (width height : Nat) :
    ∃ rules grown, config.Grown s pattern rules grown ∧
      let rasterizer : Rasterizer α := Rasterizer.ofSize width height
      let observed := pattern.replay (⟨rasterizer, []⟩ : Observed α (Rasterizer α))
      let steps := grown.flatMap fun (tree, t) =>
        ((config.turtle tree.params).departures (config.lastGeneration rules)
            (Walk.begin tree.start) t).map
          fun pose => ((⟨some pose.position, pose.ahead tree.params.length⟩ : PenLine α),
            tree.color, tree.thickness)
      observed.sink = pattern.replay rasterizer ∧
      observed.made.map LineCall.seen <+: steps ∧
      (observed.sink.picture.isSome → observed.made.map LineCall.seen = steps) ∧
      (0 < width + height → width + height < UInt32.size → observed.sink.picture.isSome) := by
  obtain ⟨rules, grown, hgrown⟩ := exists_grown h
  refine ⟨rules, grown, hgrown, ?_⟩
  intro rasterizer observed steps
  have hsink : observed.sink = pattern.replay rasterizer := Observed.sink_replay pattern _
  have hseen : observed.calls.map LineCall.seen = steps := by
    rw [Observed.seen_replay pattern hgrown.beginsWithJump, hgrown.trees, List.flatMap_map]
    refine List.flatMap_congr fun g hg => ?_
    obtain ⟨_, _, hsprouts⟩ := hgrown.sprouts g hg
    rw [hsprouts.lines, Tree.seen, List.map_map]
    rfl
  refine ⟨hsink, ?_, fun hpicture => ?_, fun hpos hsides => ?_⟩
  · rw [← hseen]
    exact (List.takeWhile_prefix _).map _
  · rw [(Observed.painting_replay pattern rasterizer).made_eq_calls hpicture, hseen]
  · rw [hsink, Option.isSome_iff_exists]
    exact pattern.exists_rasterize? hgrown.beginsWithJump hpos hsides

/-- The statement at `hedge`, on a picture that is smaller than its canvas. -/
theorem calls_replay_generateFrom_hedge : ∃ pattern, hedge.generate = .ok pattern ∧
    ∃ grown, hedge.Grown (Keystream.ofSeed hedge.seed) pattern hedgeRules grown ∧
      let rasterizer : Rasterizer Float := Rasterizer.ofSize 64 48
      let observed := pattern.replay (⟨rasterizer, []⟩ : Observed Float (Rasterizer Float))
      observed.sink = pattern.replay rasterizer ∧
      observed.made.map LineCall.seen = grown.flatMap fun (tree, t) =>
        ((hedge.turtle tree.params).departures (hedge.lastGeneration hedgeRules)
            (Walk.begin tree.start) t).map
          fun pose => (⟨some pose.position, pose.ahead tree.params.length⟩, tree.color,
            tree.thickness) := by
  obtain ⟨pattern, hpattern⟩ := hedge_passes.exists_pattern (Keystream.ofSeed hedge.seed)
  obtain ⟨rules, grown, hgrown, hsink, -, hcalls, hpicture⟩ :=
    calls_replay_generateFrom hpattern 64 48
  have hrules : hedge.rules.load = .ok rules := hgrown.passes.loaded
  rw [hedge_passes.loaded] at hrules
  cases hrules
  exact ⟨pattern, hpattern, grown, hgrown, hsink, hcalls (hpicture (by decide) (by decide))⟩

end Config

end Camouflage
