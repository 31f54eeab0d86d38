/-
Camouflage/Proofs/Yaml/SameTree.lean

When two documents are the same tree.  A document is written as text, and what is
read back from a text knows less and more than what was written: a string that was
written plain also carries what a reader of numbers would have made of it, and of
a number the text may have changed.  Neither matters to a reader, who asks a scalar
either for its string or for its number.

So scalars are the same if they are the same string, or if neither is a string and
they stand for the same numbers (`Scalar.Same`); trees are the same if they branch
alike down to such scalars (`Node.Same`).  A document reads back if its text is
read as the same tree (`Node.ReadsBack`).
-/
import Camouflage.Yaml.Printer

namespace Camouflage.Yaml

/-- The same string, or the same number. -/
inductive Scalar.Same : Scalar → Scalar → Prop
  | string {s t : Scalar} (written : s.isString = true) (found : t.isString = true)
    (text : t.text = s.text) : Scalar.Same s t
  | number {s t : Scalar} (written : s.isString = false) (found : t.isString = false)
    (natural : t.natural = s.natural) (number : t.number = s.number) : Scalar.Same s t

theorem Scalar.same_iff {s t : Scalar} : s.Same t ↔
    s.isString = true ∧ t.isString = true ∧ t.text = s.text ∨
      s.isString = false ∧ t.isString = false ∧ t.natural = s.natural ∧ t.number = s.number := by
  constructor
  · rintro (⟨written, found, text⟩ | ⟨written, found, natural, number⟩)
    · exact Or.inl ⟨written, found, text⟩
    · exact Or.inr ⟨written, found, natural, number⟩
  · rintro (⟨written, found, text⟩ | ⟨written, found, natural, number⟩)
    · exact .string written found text
    · exact .number written found natural number

instance (s t : Scalar) : Decidable (s.Same t) := decidable_of_iff _ Scalar.same_iff.symm

namespace Node

mutual

/-- The same tree of mappings, sequences, strings and numbers. -/
inductive Same : Node → Node → Prop
  | scalar {s t : Scalar} (h : s.Same t) : Same (.scalar s) (.scalar t)
  | sequence {items items' : List Node} (h : SameItems items items') :
    Same (.sequence items) (.sequence items')
  | mapping {entries entries' : List (Node × Node)} (h : SameEntries entries entries') :
    Same (.mapping entries) (.mapping entries')

/-- The same items, in the same order. -/
inductive SameItems : List Node → List Node → Prop
  | nil : SameItems [] []
  | cons {item item' : Node} {items items' : List Node} (first : Same item item')
    (rest : SameItems items items') : SameItems (item :: items) (item' :: items')

/-- The same entries, in the same order. -/
inductive SameEntries : List (Node × Node) → List (Node × Node) → Prop
  | nil : SameEntries [] []
  | cons {key key' value value' : Node} {entries entries' : List (Node × Node)}
    (firstKey : Same key key') (firstValue : Same value value')
    (rest : SameEntries entries entries') :
    SameEntries ((key, value) :: entries) ((key', value') :: entries')

end

/-- The text of a document is read as the same tree. -/
def ReadsBack (node : Node) : Prop := ∃ tree, Node.parse node.print = .ok tree ∧ node.Same tree

/-! ### What the same scalar is -/

/-- Where a string was written there is a scalar that is this string. -/
theorem Same.exists_string {w : Word} {tree : Node} (h : (Node.scalar (.string w)).Same tree) :
    ∃ s, tree = Node.scalar s ∧ s.isString = true ∧ s.text = w := by
  cases h with
  | scalar h =>
    cases h with
    | string _ found text => exact ⟨_, rfl, found, text⟩
    | number written => cases written

/-- Where a whole number was written there is a scalar that stands for it. -/
theorem Same.exists_natural {n : Nat} {tree : Node} (h : (Node.scalar (.ofNat n)).Same tree) :
    ∃ s, tree = Node.scalar s ∧ s.natural = some n := by
  cases h with
  | scalar h =>
    cases h with
    | string written => cases written
    | number _ _ natural => exact ⟨_, rfl, natural⟩

/-- Where a number was written there is a scalar that stands for it. -/
theorem Same.exists_number {x : Float} {tree : Node} (h : (Node.scalar (.ofFloat x)).Same tree) :
    ∃ s, tree = Node.scalar s ∧ s.number = some x := by
  cases h with
  | scalar h =>
    cases h with
    | string written => cases written
    | number _ _ _ number => exact ⟨_, rfl, number⟩

/-! ### Comparing trees -/

mutual

/-- Compares two trees. -/
def isSame : Node → Node → Bool
  | scalar s, scalar t => decide (s.Same t)
  | sequence items, sequence items' => isSameItems items items'
  | mapping entries, mapping entries' => isSameEntries entries entries'
  | _, _ => false

/-- Compares two lists of items. -/
def isSameItems : List Node → List Node → Bool
  | [], [] => true
  | item :: items, item' :: items' => isSame item item' && isSameItems items items'
  | _, _ => false

/-- Compares two lists of entries. -/
def isSameEntries : List (Node × Node) → List (Node × Node) → Bool
  | [], [] => true
  | (key, value) :: entries, (key', value') :: entries' =>
    isSame key key' && isSame value value' && isSameEntries entries entries'
  | _, _ => false

end

mutual

theorem isSame_iff : {a b : Node} → (isSame a b = true ↔ a.Same b)
  | scalar s, scalar t => by
    rw [isSame, decide_eq_true_iff]
    exact ⟨.scalar, fun | .scalar h => h⟩
  | sequence items, sequence items' => by
    rw [isSame, isSameItems_iff]
    exact ⟨.sequence, fun | .sequence h => h⟩
  | mapping entries, mapping entries' => by
    rw [isSame, isSameEntries_iff]
    exact ⟨.mapping, fun | .mapping h => h⟩
  | scalar _, sequence _ | scalar _, mapping _ | sequence _, scalar _ | sequence _, mapping _
  | mapping _, scalar _ | mapping _, sequence _ => ⟨(nomatch ·), (nomatch ·)⟩

theorem isSameItems_iff : {a b : List Node} → (isSameItems a b = true ↔ SameItems a b)
  | [], [] => ⟨fun _ => .nil, fun _ => rfl⟩
  | item :: items, item' :: items' => by
    rw [isSameItems, Bool.and_eq_true, isSame_iff, isSameItems_iff]
    exact ⟨fun ⟨first, rest⟩ => .cons first rest, fun | .cons first rest => ⟨first, rest⟩⟩
  | [], _ :: _ | _ :: _, [] => ⟨(nomatch ·), (nomatch ·)⟩

theorem isSameEntries_iff : {a b : List (Node × Node)} →
    (isSameEntries a b = true ↔ SameEntries a b)
  | [], [] => ⟨fun _ => .nil, fun _ => rfl⟩
  | (key, value) :: entries, (key', value') :: entries' => by
    rw [isSameEntries, Bool.and_eq_true, Bool.and_eq_true, isSame_iff, isSame_iff,
      isSameEntries_iff]
    exact ⟨fun ⟨⟨first, second⟩, rest⟩ => .cons first second rest,
      fun | .cons first second rest => ⟨⟨first, second⟩, rest⟩⟩
  | [], _ :: _ | _ :: _, [] => ⟨(nomatch ·), (nomatch ·)⟩

end

instance (a b : Node) : Decidable (a.Same b) := decidable_of_iff _ isSame_iff

instance (node : Node) : Decidable node.ReadsBack :=
  match h : Node.parse node.print with
  | .error _ => isFalse fun ⟨_, hparse, _⟩ => by
    rw [h] at hparse
    cases hparse
  | .ok tree => decidable_of_iff (node.Same tree)
    ⟨fun hsame => ⟨tree, h, hsame⟩, fun ⟨_, hparse, hsame⟩ => by
      rw [h] at hparse
      cases hparse
      exact hsame⟩

end Node

end Camouflage.Yaml
