/-
Camouflage/Text/Blank.lean

Blank characters and trimming.  A character is blank when it has the
`White_Space` property of Unicode; `isBlank_of_isWhitespace` says that the
blanks of the core library are among them.

Text that is taken apart is a list of characters throughout this library, so
that recursion, look-ahead and proofs all go over the same list.
-/
namespace Camouflage

/-- Text as a list of characters: symbols, rule notation, anything taken apart. -/
abbrev Word := List Char

namespace Text

/-- The code points with the `White_Space` property, as closed ranges. -/
def blankRanges : List (Nat × Nat) :=
  [(0x9, 0xD), (0x20, 0x20), (0x85, 0x85), (0xA0, 0xA0), (0x1680, 0x1680),
   (0x2000, 0x200A), (0x2028, 0x2029), (0x202F, 0x202F), (0x205F, 0x205F), (0x3000, 0x3000)]

/-- Whether a character has the `White_Space` property. -/
def isBlank (c : Char) : Bool :=
  blankRanges.any fun r => r.1 ≤ c.toNat && c.toNat ≤ r.2

theorem isBlank_of_isWhitespace {c : Char} (h : c.isWhitespace = true) : isBlank c = true := by
  simp only [Char.isWhitespace, Bool.or_eq_true, decide_eq_true_eq] at h
  rcases h with (((rfl | rfl) | rfl) | rfl) <;> decide

/-- The text from its first character that is not blank. -/
def trimLeft (w : Word) : Word := w.dropWhile isBlank

/-- The text up to its last character that is not blank. -/
def trimRight (w : Word) : Word := (w.reverse.dropWhile isBlank).reverse

/-- The text without blanks at either end. -/
def trim (w : Word) : Word := trimRight (trimLeft w)

end Text

end Camouflage
