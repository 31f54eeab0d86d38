/-
Camouflage/Proofs/Config/RoundTrip.lean

Config files, whole or partial.  A document may have all fields of a configuration
or some of them (`Config.toNodeKeeping`).  Provided that its text is read as the same
tree, the configuration read from it has the fields that were kept as they were
written, and the standard value in all others.

A field is copied from one configuration to another (`Field.copy`), which leaves all
other fields alone (`Field.get_copy`).  To read a field that was written is to copy it
(`setField_node`), so to read a document is to copy its fields one after the other,
on top of the standard values (`readFields_nodes`).  What this leaves in a field
depends on nothing but whether the field is among them.
-/
import Mathlib.Data.List.Nodup
import Camouflage.Proofs.Config.Values

namespace Camouflage

open Yaml (Node)

namespace Document

/-- The fields of a configuration. -/
inductive Field
  | seed
  | colorCount
  | treeCount
  | depth
  | start
  | rules
  | angle
  | length
  | deviation
  | thickness
  | canvas
  | wrap
  | palette
  | symbolLimit
deriving DecidableEq

namespace Field

/-- All fields, in the order in which they are written. -/
def all : List Field :=
  [seed, colorCount, treeCount, depth, start, rules, angle, length, deviation, thickness, canvas,
    wrap, palette, symbolLimit]

/-- The name of a field in documents. -/
def name : Field → String
  | seed => "seed"
  | colorCount => "num_colors"
  | treeCount => "num_loops"
  | depth => "recursion_depth"
  | start => "axiom"
  | rules => "rules"
  | angle => "angle"
  | length => "length"
  | deviation => "random_deviation"
  | thickness => "line_thickness"
  | canvas => "canvas"
  | wrap => "wrap"
  | palette => "palette"
  | symbolLimit => "max_symbols"

/-- The values of a field. -/
def Value : Field → Type
  | seed | colorCount | treeCount | symbolLimit => UInt64
  | depth => UInt32
  | start => Word
  | rules => RuleSource
  | angle | length | deviation => Float
  | thickness => ThicknessRange
  | canvas => CanvasSize
  | wrap => WrapMode
  | palette => Palette

/-- The value of a field. -/
def get (c : Config Float) : (f : Field) → f.Value
  | seed => c.seed
  | colorCount => c.colorCount
  | treeCount => c.treeCount
  | depth => c.depth
  | start => c.start
  | rules => c.rules
  | angle => c.angle
  | length => c.length
  | deviation => c.deviation
  | thickness => c.thickness
  | canvas => c.canvas
  | wrap => c.wrap
  | palette => c.palette
  | symbolLimit => c.symbolLimit

/-- How a value is written. -/
def write : (f : Field) → f.Value → Node
  | seed, n | colorCount, n | treeCount, n | symbolLimit, n => natural (UInt64.toNat n)
  | depth, n => natural (UInt32.toNat n)
  | start, w => string w
  | rules, source => Document.rules source
  | angle, x | length, x | deviation, x => number x
  | thickness, range =>
    fields [("min", natural range.least.toNat), ("max", natural range.greatest.toNat)]
  | canvas, size =>
    fields [("width", natural size.width.toNat), ("height", natural size.height.toNat)]
  | wrap, mode => string (wrapName mode).toList
  | palette, p => .sequence (p.colors.map fun color => string color.toWord)

/-- A configuration that takes one field from another one. -/
def copy (c d : Config Float) : Field → Config Float
  | seed => { d with seed := c.seed }
  | colorCount => { d with colorCount := c.colorCount }
  | treeCount => { d with treeCount := c.treeCount }
  | depth => { d with depth := c.depth }
  | start => { d with start := c.start }
  | rules => { d with rules := c.rules }
  | angle => { d with angle := c.angle }
  | length => { d with length := c.length }
  | deviation => { d with deviation := c.deviation }
  | thickness => { d with thickness := c.thickness }
  | canvas => { d with canvas := c.canvas }
  | wrap => { d with wrap := c.wrap }
  | palette => { d with palette := c.palette }
  | symbolLimit => { d with symbolLimit := c.symbolLimit }

theorem mem_all (f : Field) : f ∈ all := by
  cases f <;> decide

theorem nodup_all : all.Nodup := by decide

theorem name_injective {f g : Field} (h : f.name = g.name) : f = g := by
  have hnames : (all.map name).Nodup := by decide
  exact List.inj_on_of_nodup_map hnames (mem_all f) (mem_all g) h

/-- A field is copied, and no other one. -/
theorem get_copy (c d : Config Float) (f g : Field) :
    g.get (f.copy c d) = if g = f then g.get c else g.get d := by
  cases f <;> cases g <;> rfl

/-- A configuration is what its fields are. -/
theorem ext_get {c d : Config Float} (h : ∀ f : Field, f.get c = f.get d) : c = d := by
  obtain ⟨⟩ := c
  obtain ⟨⟩ := d
  simp only [Config.mk.injEq]
  exact ⟨h seed, h colorCount, h treeCount, h depth, h start, h rules, h angle, h length,
    h deviation, h thickness, h canvas, h wrap, h palette, h symbolLimit⟩

end Field

theorem configFields_eq (c : Config Float) :
    configFields c = Field.all.map fun f => (f.name, f.write (f.get c)) := rfl

theorem setField_node (c d : Config Float) (f : Field) {tree : Node}
    (h : (f.write (f.get c)).Same tree) :
    setField d f.name.toList tree = some (.ok (f.copy c d)) := by
  have hset {α : Type} {read : Node → Reading α} {node : Node} {value : α}
      (hreads : Reads read node value) (hsame : node.Same tree) (put : α → Config Float) :
      some (put <$> read tree) = some (Except.ok (put value)) := by
    rw [hreads tree hsame]
    rfl
  cases f with
  | seed => exact hset (reads_uInt64 _) h _
  | colorCount => exact hset (reads_uInt64 _) h _
  | treeCount => exact hset (reads_uInt64 _) h _
  | depth => exact hset (reads_uInt32 _) h _
  | start => exact hset (reads_text _) h _
  | rules => exact hset (reads_rules _) h _
  | angle => exact hset (reads_number _) h _
  | length => exact hset (reads_number _) h _
  | deviation => exact hset (reads_number _) h _
  | thickness => exact hset (reads_pair (by decide) _ _) h _
  | canvas => exact hset (reads_pair (by decide) _ _) h _
  | wrap => exact hset (reads_wrap _) h _
  | palette => exact hset (reads_palette _) h _
  | symbolLimit => exact hset (reads_uInt64 _) h _

/-! ### Reading the fields of a document -/

/-- **Fields.**  To read fields that were written is to copy them one after the other. -/
theorem readFields_nodes {c d : Config Float} {kept : List Field} (hnodup : kept.Nodup)
    {found : List (Node × Node)}
    (h : Node.SameEntries (kept.map fun f => (string f.name.toList, f.write (f.get c))) found)
    {seen : List Word} (hseen : ∀ f ∈ kept, f.name.toList ∉ seen) :
    readFields setField seen d found = .ok (kept.foldl (fun d f => f.copy c d) d) := by
  induction kept generalizing found seen d with
  | nil =>
    cases h
    rfl
  | cons f kept ih =>
    obtain ⟨hfresh, hnodup⟩ := List.nodup_cons.1 hnodup
    cases h with
    | cons hname hvalue h =>
      rw [readFields_cons hname (setField_node c d f hvalue) (hseen f List.mem_cons_self),
        List.foldl_cons]
      refine ih hnodup h fun g hg => ?_
      rw [List.mem_cons, not_or]
      constructor
      · intro hsame
        obtain rfl := Field.name_injective (String.toList_inj.1 hsame)
        exact hfresh hg
      · exact hseen g (List.mem_cons_of_mem f hg)

/-- A field has been copied if it is among those that were. -/
theorem get_foldl_copy (c d : Config Float) (kept : List Field) (f : Field) :
    f.get (kept.foldl (fun d f => f.copy c d) d) = if f ∈ kept then f.get c else f.get d := by
  induction kept generalizing d with
  | nil => rfl
  | cons g kept ih =>
    rw [List.foldl_cons, ih, Field.get_copy]
    by_cases hkept : f ∈ kept
    · rw [if_pos hkept, if_pos (List.mem_cons_of_mem g hkept)]
    · simp [hkept]

end Document

namespace Config

/-- The document of a configuration with the fields left out whose names are not kept. -/
def toNodeKeeping (keep : String → Bool) (c : Config Float) : Node :=
  Document.fields ((Document.configFields c).filter fun e => keep e.1)

theorem toNodeKeeping_all (c : Config Float) : c.toNodeKeeping (fun _ => true) = c.toNode := by
  rw [toNodeKeeping, List.filter_true]
  rfl

theorem toNodeKeeping_eq (keep : String → Bool) (c : Config Float) :
    c.toNodeKeeping keep = .mapping ((Document.Field.all.filter fun f => keep f.name).map
      fun f => (Document.string f.name.toList, f.write (f.get c))) := by
  rw [toNodeKeeping, Document.configFields_eq, List.filter_map, Document.fields, List.map_map]
  rfl

open Document in
/-- What is read from a document has the fields of the document, and all others as standard. -/
theorem exists_ofNode {keep : String → Bool} {c : Config Float} {tree : Node}
    (h : (c.toNodeKeeping keep).Same tree) :
    ∃ c', ofNode tree = .ok c' ∧
      ∀ f : Field, f.get c' = if keep f.name then f.get c else f.get standard := by
  rw [toNodeKeeping_eq] at h
  cases h with
  | mapping h =>
    refine ⟨_, readFields_nodes (Field.nodup_all.filter _) h fun _ _ => List.not_mem_nil, ?_⟩
    intro f
    rw [get_foldl_copy]
    simp [Field.mem_all]

open Document in
/-- The same is read from the text of the document, if this is read as the same tree. -/
theorem exists_ofYaml {keep : String → Bool} {c : Config Float}
    (h : (c.toNodeKeeping keep).ReadsBack) :
    ∃ c', ofYaml (c.toNodeKeeping keep).print = .ok c' ∧
      ∀ f : Field, f.get c' = if keep f.name then f.get c else f.get standard := by
  obtain ⟨tree, hparse, hsame⟩ := h
  obtain ⟨c', hread, hfields⟩ := exists_ofNode hsame
  refine ⟨c', ?_, hfields⟩
  have hdocument : (Node.parse (c.toNodeKeeping keep).print >>= ofNode) = .ok c' := by
    rw [hparse]
    exact hread
  rw [ofYaml, hdocument]

open Document in
/-- **Config files round trip, whole or partial.**  From the document of any configuration, with any
of its fields left out, a configuration is read that has the fields which were kept as they were and
all others as standard; with nothing left out it is the one that was written.  All that is asked of
the text of the document is that it is read as the same tree. -/
theorem ofYaml_print (c : Config Float) :
    (∀ keep : String → Bool, (c.toNodeKeeping keep).ReadsBack →
      ∃ c', ofYaml (c.toNodeKeeping keep).print = .ok c' ∧
        ∀ f : Field, f.get c' = if keep f.name then f.get c else f.get standard) ∧
    (c.toNode.ReadsBack → ofYaml c.toYaml = .ok c) := by
  refine ⟨fun keep h => exists_ofYaml h, fun h => ?_⟩
  -- the whole document is the one from which nothing is left out
  rw [← toNodeKeeping_all] at h
  obtain ⟨c', hread, hfields⟩ := exists_ofYaml h
  rw [toNodeKeeping_all, Field.ext_get hfields] at hread
  exact hread

/-- Values that look like others: a start word and rules that could be a number, a width range that
is upside down, and a palette that could be no list at all. -/
def lookalike : Config Float :=
  { (Config.standard : Config Float) with
    seed := 7
    start := ['5']
    rules := .text ['5']
    angle := -0.5
    thickness := ⟨13, 2⟩
    wrap := .modulo
    palette := ⟨[]⟩ }

open Document in
/-- The statement at `lookalike`, whole and without its seed and all that is standard in it. -/
theorem ofYaml_print_lookalike :
    let keep (name : String) : Bool :=
      name ∈ ["axiom", "rules", "angle", "line_thickness", "wrap", "palette"]
    (lookalike.toNodeKeeping keep).ReadsBack ∧ lookalike.toNode.ReadsBack ∧
      (∃ c', ofYaml (lookalike.toNodeKeeping keep).print = .ok c' ∧
        c'.seed = 42 ∧ c'.rules = .text ['5'] ∧
        ∀ f : Field, f.get c' = if keep f.name then f.get lookalike else f.get standard) ∧
      ofYaml lookalike.toYaml = .ok lookalike := by
  intro keep
  have hpartial : (lookalike.toNodeKeeping keep).ReadsBack := by decide +kernel
  have hwhole : lookalike.toNode.ReadsBack := by decide +kernel
  obtain ⟨c', hread, hfields⟩ := (ofYaml_print lookalike).1 keep hpartial
  exact ⟨hpartial, hwhole, ⟨c', hread, hfields .seed, hfields .rules, hfields⟩,
    (ofYaml_print lookalike).2 hwhole⟩

end Config

end Camouflage
