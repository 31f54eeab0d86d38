/-
Camouflage/Proofs/Config/Values.lean

Values of config files.  A value is written as a node, and whoever reads the
document may have another node in front of him, which is the same tree and no more
(`Document.Reads`).  Every reader of values finds there the value that was written:
strings, which may look like numbers, numbers, pairs, tables of strings, colors by
way of their text.

A reader looks at the one part of a scalar it needs, so it is enough to know what
the same scalar has in common with the one written.
-/
import Camouflage.Config.Document
import Camouflage.Proofs.Palette.ColorText
import Camouflage.Proofs.Tables
import Camouflage.Proofs.Yaml.SameTree

namespace Camouflage.Document

open Yaml (Node)

/-- A reader finds a value wherever there is the same tree as a node that was written. -/
def Reads {α : Type} (read : Node → Reading α) (node : Node) (value : α) : Prop :=
  ∀ tree, node.Same tree → read tree = .ok value

theorem Reads.map {α β : Type} {read : Node → Reading α} {node : Node} {value : α}
    (h : Reads read node value) (f : α → β) :
    Reads (fun tree => f <$> read tree) node (f value) := by
  intro tree hsame
  dsimp only
  rw [h tree hsame]
  rfl

/-! ### Scalars -/

theorem reads_text (w : Word) : Reads readText (string w) w := by
  intro tree h
  obtain ⟨s, rfl, -, htext⟩ := h.exists_string
  rw [readText, htext]

/-- A string is found as one, whatever it looks like. -/
theorem reads_string (w : Word) : Reads readString (string w) w := by
  intro tree h
  obtain ⟨s, rfl, hstring, htext⟩ := h.exists_string
  rw [readString, if_pos hstring, htext]

theorem reads_natural {n limit : Nat} (hlimit : n < limit) :
    Reads (readNatural limit) (natural n) n := by
  intro tree h
  obtain ⟨s, rfl, hnatural⟩ := h.exists_natural
  rw [readNatural, hnatural]
  exact if_pos hlimit

theorem reads_number (x : Float) : Reads readNumber (number x) x := by
  intro tree h
  obtain ⟨s, rfl, hnumber⟩ := h.exists_number
  rw [readNumber, hnumber]

theorem reads_uInt64 (n : UInt64) : Reads readUInt64 (natural n.toNat) n := by
  have h := (reads_natural n.toNat_lt_size).map UInt64.ofNat
  rwa [UInt64.ofNat_toNat] at h

theorem reads_uInt32 (n : UInt32) : Reads readUInt32 (natural n.toNat) n := by
  have h := (reads_natural n.toNat_lt_size).map UInt32.ofNat
  rwa [UInt32.ofNat_toNat] at h

theorem reads_wrap (mode : WrapMode) : Reads readWrap (string (wrapName mode).toList) mode := by
  intro tree h
  rw [readWrap, reads_text _ tree h]
  cases mode with
  | singleFold => rfl
  | modulo => rfl

/-! ### Rules -/

/-- The entries of a mapping of strings are found in their order. -/
theorem readStrings_same {entries : List (Word × Word)} {found : List (Node × Node)}
    (h : Node.SameEntries (entries.map fun e => (string e.1, string e.2)) found) :
    readStrings found = .ok entries := by
  induction entries generalizing found with
  | nil =>
    cases h
    rfl
  | cons e rest ih =>
    cases h with
    | cons firstKey firstValue rest =>
      rw [readStrings, reads_string _ _ firstKey, reads_string _ _ firstValue, ih rest]
      rfl

/-- Rules are found in the form in which they were given: a table is a mapping even if it is empty,
and a text is a string even if it looks like a mapping. -/
theorem reads_rules (source : RuleSource) : Reads readRules (rules source) source := by
  intro tree h
  cases source with
  | table table =>
    cases h with
    | mapping h =>
      rw [readRules, readStrings_same h]
      exact congrArg (fun t => Except.ok (RuleSource.table t)) table.ofList_entries
  | text text =>
    have hread := reads_string text tree h
    obtain ⟨s, rfl, -, -⟩ := h.exists_string
    show RuleSource.text <$> readString (.scalar s) = _
    rw [hread]
    rfl

/-! ### Palettes -/

theorem readColors_same {colors : List Color} {found : List Node}
    (h : Node.SameItems (colors.map fun color => string color.toWord) found) :
    readColors found = .ok colors := by
  induction colors generalizing found with
  | nil =>
    cases h
    rfl
  | cons color colors ih =>
    cases h with
    | cons first rest =>
      simp only [readColors, reads_text _ _ first, ih rest, bind, Except.bind, color.parse_toWord]
      rfl

/-- The colors of a palette are found by way of their text. -/
theorem reads_palette (palette : Palette) :
    Reads readPalette (.sequence (palette.colors.map fun color => string color.toWord))
      palette := by
  intro tree h
  cases h with
  | sequence h =>
    rw [readPalette, readColors_same h]
    rfl

/-! ### Fields -/

/-- A field that is set and has not been met is taken into account. -/
theorem readFields_cons {α : Type} {set : α → Word → Node → Option (Reading α)} {seen : List Word}
    {value next : α} {name : Word} {key node : Node} (hkey : (string name).Same key)
    (hset : set value name node = some (.ok next)) (hnew : name ∉ seen)
    (rest : List (Node × Node)) :
    readFields set seen value ((key, node) :: rest)
      = readFields set (name :: seen) next rest := by
  show (readText key >>= _) = _
  rw [reads_text name key hkey]
  simp only [bind, Except.bind, hset, if_neg hnew]

theorem readFields_pair {first second : String} (hne : first ≠ second) {a b : UInt32}
    {found : List (Node × Node)}
    (h : Node.SameEntries [(string first.toList, natural a.toNat),
      (string second.toList, natural b.toNat)] found) :
    readFields (setPair first second) [] (none, none) found = .ok (some a, some b) := by
  have hnames : second.toList ≠ first.toList := fun heq => hne (String.toList_inj.1 heq.symm)
  have hleft {node : Node} (ha : (natural a.toNat).Same node) :
      setPair first second (none, none) first.toList node = some (.ok (some a, none)) := by
    rw [setPair, if_pos rfl, reads_uInt32 a _ ha]
    rfl
  have hright {node : Node} (hb : (natural b.toNat).Same node) :
      setPair first second (some a, none) second.toList node = some (.ok (some a, some b)) := by
    rw [setPair, if_neg hnames, if_pos rfl, reads_uInt32 b _ hb]
    rfl
  cases h with
  | cons hfirst ha h =>
    cases h with
    | cons hsecond hb h =>
      cases h
      have hother : second.toList ∉ [first.toList] := by rwa [List.mem_singleton]
      rw [readFields_cons hfirst (hleft ha) List.not_mem_nil,
        readFields_cons hsecond (hright hb) hother]
      rfl

/-- A pair is found under its two names. -/
theorem reads_pair {first second : String} (hne : first ≠ second) (a b : UInt32) :
    Reads (readPair first second)
      (fields [(first, natural a.toNat), (second, natural b.toNat)]) (a, b) := by
  intro tree h
  cases h with
  | @mapping _ found h =>
    show (readFields (setPair first second) [] (none, none) found >>= _) = _
    rw [readFields_pair hne h]
    rfl

end Camouflage.Document
