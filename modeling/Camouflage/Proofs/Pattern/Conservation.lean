/-
Camouflage/Proofs/Pattern/Conservation.lean

Nothing gets lost between the word and a recording.  Steps of the word are lines
of every tree, lines of the trees are counted by the statistics, and all of them
come out of a recording again, in order and in the color and the width of their
tree (`Pattern.Conserves`).  The same goes for jumps: every tree has one to its
start, one for every close and one for every wrap.

That a single tree is counted right is `Turtle.draw_movements`.  The statistics
add up over trees, and a recording is the concatenation of what is told for each
of them, so both follow from that.
-/
import Mathlib.Algebra.BigOperators.Group.List.Basic
import Camouflage.Pattern.Replay
import Camouflage.Proofs.Pattern.Trees
import Camouflage.Proofs.Turtle.Movements

namespace Camouflage

variable {α : Type}

/-! ### What is kept of a movement -/

/-- What a recording keeps of a movement of a tree. -/
def Tree.drawEvent (tree : Tree α) : PathEvent α → DrawEvent α
  | .moveTo p => .moveTo p
  | .lineTo p => .lineTo p tree.color tree.thickness

namespace DrawEvent

/-- Whether a sink was told a background. -/
def isBackground : DrawEvent α → Bool
  | setBackground _ => true
  | _ => false

/-- Whether a sink was told a line. -/
def isLine : DrawEvent α → Bool
  | lineTo _ _ _ => true
  | _ => false

/-- Whether a sink was told a jump. -/
def isMove : DrawEvent α → Bool
  | moveTo _ => true
  | _ => false

end DrawEvent

namespace Tree

variable (tree : Tree α)

/-- Movements are neither lost nor changed into one another. -/
theorem isLine_drawEvent (event : PathEvent α) : (tree.drawEvent event).isLine = event.isLine := by
  cases event <;> rfl

theorem isMove_drawEvent (event : PathEvent α) : (tree.drawEvent event).isMove = event.isMove := by
  cases event <;> rfl

theorem isBackground_drawEvent (event : PathEvent α) :
    (tree.drawEvent event).isBackground = false := by
  cases event <;> rfl

/-- The number of jumps of a tree. -/
def jumps : Nat := tree.events.countP PathEvent.isMove

/-- What a recording keeps of a tree. -/
def told : List (DrawEvent α) := tree.events.toList.map tree.drawEvent

theorem countP_isLine_told : tree.told.countP DrawEvent.isLine = tree.segments := by
  rw [told, List.countP_map, segments, PathEvent.countLines, ← Array.countP_toList]
  exact List.countP_congr fun event _ => by rw [Function.comp_apply, isLine_drawEvent]

theorem countP_isMove_told : tree.told.countP DrawEvent.isMove = tree.jumps := by
  rw [told, List.countP_map, jumps, ← Array.countP_toList]
  exact List.countP_congr fun event _ => by rw [Function.comp_apply, isMove_drawEvent]

theorem countP_isBackground_told : tree.told.countP DrawEvent.isBackground = 0 := by
  rw [told, List.countP_map, List.countP_eq_zero]
  intro event _
  rw [Function.comp_apply, isBackground_drawEvent]
  exact Bool.false_ne_true

/-- What a tree drawn from a word conserves. -/
structure Conserves (tree : Tree α) (symbols : Word) : Prop where
  /-- the first movement is a jump to the start -/
  begins : ∃ rest, tree.events.toList = .moveTo tree.start.position :: rest
  /-- every step of the word is a line -/
  lines : tree.segments = symbols.count 'F'
  /-- every close of the word is a jump, and so is every wrap -/
  jumps : tree.jumps = 1 + symbols.count ']' + tree.wraps

/-- A recording is told the movements of a tree in order. -/
theorem replay_events (recording : Recording α) :
    (tree.replay recording).events.toList = recording.events.toList ++ tree.told := by
  rw [replay, told, ← Array.foldl_toList]
  induction tree.events.toList generalizing recording with
  | nil => exact (List.append_nil _).symm
  | cons event events ih =>
    have hevent : (tree.tell recording event).events.toList
        = recording.events.toList ++ [tree.drawEvent event] := by
      cases event with
      | moveTo p => exact Array.toList_push
      | lineTo p => exact Array.toList_push
    rw [List.foldl_cons, ih, hevent, List.append_assoc]
    rfl

end Tree

/-! ### What is kept of a pattern -/

namespace Pattern

variable (pattern : Pattern α)

/-- The number of wraps in all trees. -/
def wraps : Nat := (pattern.trees.toList.map Tree.wraps).sum

/-- Adding up one number for each element of a list. -/
theorem foldl_add_eq_sum {β : Type} (f : β → Nat) (l : List β) (n : Nat) :
    l.foldl (fun n x => n + f x) n = n + (l.map f).sum := by
  induction l generalizing n with
  | nil => rfl
  | cons x l ih => rw [List.foldl_cons, ih, List.map_cons, List.sum_cons, Nat.add_assoc]

theorem stats_eq : pattern.stats
    = ⟨pattern.trees.size, (pattern.trees.toList.map Tree.segments).sum, pattern.wraps⟩ := by
  rw [stats, ← Array.foldl_toList, ← Array.foldl_toList, foldl_add_eq_sum, foldl_add_eq_sum,
    Nat.zero_add, Nat.zero_add]
  rfl

/-- A recording of a pattern: the background, and then what is told for each tree. -/
theorem record_events : pattern.record.events.toList
    = .setBackground pattern.background :: pattern.trees.toList.flatMap Tree.told := by
  have hreplay (trees : List (Tree α)) (recording : Recording α) :
      (trees.foldl (fun sink tree => tree.replay sink) recording).events.toList
        = recording.events.toList ++ trees.flatMap Tree.told := by
    induction trees generalizing recording with
    | nil => exact (List.append_nil _).symm
    | cons tree trees ih =>
      rw [List.foldl_cons, ih, Tree.replay_events, List.flatMap_cons, List.append_assoc]
  rw [record, replay, ← Array.foldl_toList, hreplay]
  rfl

/-- What a pattern of some trees drawn from one word conserves. -/
structure Conserves (pattern : Pattern α) (count : Nat) (symbols : Word) : Prop where
  trees : ∀ tree ∈ pattern.trees, tree.Conserves symbols
  /-- the statistics count trees, lines and wraps -/
  stats : pattern.stats = ⟨count, count * symbols.count 'F', pattern.wraps⟩
  /-- a recording has the background first and then the movements of the trees in order, each line
  in the color and the width of its tree -/
  recorded : pattern.record.events.toList
    = .setBackground pattern.background :: pattern.trees.toList.flatMap Tree.told
  /-- there is no other background -/
  recorded_backgrounds : pattern.record.events.countP DrawEvent.isBackground = 1
  /-- and no other line -/
  recorded_lines : pattern.record.events.countP DrawEvent.isLine = count * symbols.count 'F'
  /-- and no other jump -/
  recorded_jumps : pattern.record.events.countP DrawEvent.isMove
    = count * (1 + symbols.count ']') + pattern.wraps

/-- What is counted alike in every tree. -/
theorem sum_map_eq {count n : Nat} {f : Tree α → Nat} (hsize : pattern.trees.size = count)
    (h : ∀ tree ∈ pattern.trees, f tree = n) : (pattern.trees.toList.map f).sum = count * n := by
  have hall : ∀ k ∈ pattern.trees.toList.map f, k = n := by
    intro k hk
    obtain ⟨tree, htree, rfl⟩ := List.mem_map.1 hk
    exact h tree (Array.mem_toList_iff.1 htree)
  rw [List.sum_eq_card_nsmul _ n hall, List.length_map, Array.length_toList, hsize, smul_eq_mul]

theorem countP_record (p : DrawEvent α → Bool) : pattern.record.events.countP p
    = (if p (.setBackground pattern.background) then 1 else 0)
      + (pattern.trees.toList.map fun tree => tree.told.countP p).sum := by
  rw [← Array.countP_toList, record_events, List.countP_cons, List.countP_flatMap, Nat.add_comm]
  rfl

variable {pattern}

/-- Trees that are counted right one by one are counted right together. -/
theorem conserves_of_trees {count : Nat} {symbols : Word} (hsize : pattern.trees.size = count)
    (htrees : ∀ tree ∈ pattern.trees, tree.Conserves symbols) :
    pattern.Conserves count symbols where
  trees := htrees
  stats := by
    rw [stats_eq, hsize, pattern.sum_map_eq hsize fun tree htree => (htrees tree htree).lines]
  recorded := pattern.record_events
  recorded_backgrounds := by
    rw [countP_record, pattern.sum_map_eq hsize fun tree _ => tree.countP_isBackground_told,
      Nat.mul_zero]
    rfl
  recorded_lines := by
    have htold : ∀ tree ∈ pattern.trees,
        tree.told.countP DrawEvent.isLine = symbols.count 'F' := by
      intro tree htree
      rw [tree.countP_isLine_told, (htrees tree htree).lines]
    rw [countP_record, pattern.sum_map_eq hsize htold]
    exact Nat.zero_add _
  recorded_jumps := by
    have htold : (pattern.trees.toList.map fun tree => tree.told.countP DrawEvent.isMove)
        = pattern.trees.toList.map fun tree => 1 + symbols.count ']' + tree.wraps := by
      refine List.map_congr_left fun tree htree => ?_
      rw [tree.countP_isMove_told, (htrees tree (Array.mem_toList_iff.1 htree)).jumps]
    rw [countP_record, htold, List.sum_map_add, pattern.sum_map_eq hsize fun _ _ => rfl]
    exact Nat.zero_add _

end Pattern

/-! ### Patterns that are generated -/

namespace Config

variable {σ : Type} [Scalar α] [Compass α] [Sampling α] [RandomSource σ]
variable {config : Config α} {foreground : List Color} {symbols : Word}

/-- A tree that sprouts has the movements of its walk. -/
theorem Sprouts.conserves {tree : Tree α} {s t s' : σ}
    (h : config.Sprouts foreground symbols s tree t s') : tree.Conserves symbols := by
  obtain ⟨walk, hdraw, hevents, hwraps⟩ := h.walked
  obtain ⟨hbegins, hlines, hjumps⟩ := Turtle.draw_movements hdraw h.penDown
  constructor
  · rw [hevents]
    exact hbegins
  · rw [Tree.segments, PathEvent.countLines, hevents]
    exact hlines
  · rw [Tree.jumps, hevents, hwraps]
    exact hjumps

/-- **Nothing gets lost.**  On every stream, that of every seed among them: the lines and jumps of a
pattern, of its statistics and of its recording are those of the last generation, for every tree. -/
theorem conserves_generateFrom {pattern : Pattern α} {s : σ}
    (h : config.generateFrom s = .ok pattern) :
    ∃ rules, config.Passes rules ∧
      pattern.Conserves config.treeCount.toNat (config.lastGeneration rules) := by
  obtain ⟨rules, grown, hgrown⟩ := exists_grown h
  have hsize : pattern.trees.size = config.treeCount.toNat := by
    rw [← Array.length_toList, hgrown.trees, List.length_map, hgrown.count]
  refine ⟨rules, hgrown.passes, Pattern.conserves_of_trees hsize fun tree htree => ?_⟩
  obtain ⟨_, _, _, hsprouts⟩ := hgrown.exists_of_mem htree
  exact hsprouts.conserves

/-- The statement at `hedge`: four lines and two jumps besides wraps for each of three trees. -/
theorem conserves_generateFrom_hedge : ∃ pattern, hedge.generate = .ok pattern ∧
    pattern.Conserves 3 "F[+F-F]F".toList := by
  obtain ⟨pattern, hpattern⟩ := hedge_passes.exists_pattern (Keystream.ofSeed hedge.seed)
  obtain ⟨rules, hpasses, hconserves⟩ := conserves_generateFrom hpattern
  have hrules : hedge.rules.load = .ok rules := hpasses.loaded
  rw [hedge_passes.loaded] at hrules
  cases hrules
  exact ⟨pattern, hpattern, hconserves⟩

end Config

end Camouflage
