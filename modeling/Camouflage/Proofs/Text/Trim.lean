/-
Camouflage/Proofs/Text/Trim.lean

Trimming.  A trimmed text is one with no blank at either end; trimming makes any
text such a text and leaves one as it is.

Trimming takes blanks off one at a time, first from the left and then from the
right.  So what does not depend on one blank at either end does not depend on
trimming (`apply_trim`), which is how all readers of trimmed text are shown not
to care where the text was trimmed.
-/
import Mathlib.Data.List.DropRight
import Mathlib.Data.List.TakeWhile
import Camouflage.Text.Blank

namespace Camouflage.Text

/-- A text with no blank at either end. -/
structure Trimmed (w : Word) : Prop where
  head : ∀ c ∈ w.head?, isBlank c = false
  last : ∀ c ∈ w.getLast?, isBlank c = false

/-! ### One side -/

theorem trimLeft_eq_self {w : Word} (h : ∀ c ∈ w.head?, isBlank c = false) : trimLeft w = w := by
  cases w with
  | nil => rfl
  | cons c rest =>
    have hc : isBlank c = false := h c rfl
    rw [trimLeft, List.dropWhile_cons_of_neg (by simp [hc])]

theorem trimRight_eq_rdropWhile (w : Word) : trimRight w = w.rdropWhile isBlank := rfl

theorem trimRight_eq_self {w : Word} (h : ∀ c ∈ w.getLast?, isBlank c = false) :
    trimRight w = w := by
  rw [trimRight_eq_rdropWhile, List.rdropWhile_eq_self_iff]
  intro hne
  rw [h _ (List.getLast_mem_getLast? hne)]
  exact Bool.false_ne_true

/-- Trimming on the right goes no further than something that is not blank. -/
theorem trimRight_append_cons {c : Char} (hc : isBlank c = false) (front w : Word) :
    trimRight (front ++ c :: w) = front ++ c :: trimRight w := by
  induction w using List.reverseRecOn with
  | nil =>
    have hlast : ∀ d ∈ (front ++ [c]).getLast?, isBlank d = false := by
      intro d hd
      rw [List.getLast?_concat, Option.mem_some_iff] at hd
      rw [← hd]
      exact hc
    exact trimRight_eq_self hlast
  | append_singleton w d ih =>
    rw [← List.cons_append, ← List.append_assoc]
    rw [trimRight_eq_rdropWhile, trimRight_eq_rdropWhile] at *
    by_cases hd : isBlank d
    · rw [List.rdropWhile_concat_pos _ _ _ hd, List.rdropWhile_concat_pos _ _ _ hd, ih]
    · rw [List.rdropWhile_concat_neg _ _ _ hd, List.rdropWhile_concat_neg _ _ _ hd,
        List.append_assoc, List.cons_append]

/-! ### Both sides -/

theorem trim_eq_self {w : Word} (h : Trimmed w) : trim w = w := by
  rw [trim, trimLeft_eq_self h.head, trimRight_eq_self h.last]

theorem trimmed_trim (w : Word) : Trimmed (trim w) := by
  have hprefix : trim w <+: trimLeft w := List.rdropWhile_prefix isBlank (trimLeft w)
  constructor
  · intro c hc
    have hhead : (trimLeft w).head? = some c := by
      obtain ⟨rest, hrest⟩ := List.head?_eq_some_iff.1 hc
      obtain ⟨tail, htail⟩ := hprefix
      rw [← htail, hrest]
      rfl
    have hnot := List.head?_dropWhile_not isBlank w
    rw [show w.dropWhile isBlank = trimLeft w from rfl, hhead] at hnot
    exact hnot
  · intro c hc
    obtain ⟨hne, hlast⟩ := List.mem_getLast?_eq_getLast hc
    have hnot := List.rdropWhile_last_not isBlank (trimLeft w) hne
    rw [hlast]
    exact Bool.eq_false_iff.2 hnot

/-- Trimming only takes away. -/
theorem mem_of_mem_trim {w : Word} {c : Char} (h : c ∈ trim w) : c ∈ w := by
  have hleft : c ∈ trimLeft w := (List.rdropWhile_prefix isBlank (trimLeft w)).subset h
  exact (List.dropWhile_sublist isBlank).subset hleft

/-! ### What does not depend on blanks -/

section Apply

variable {β : Type} {f : Word → β}

theorem apply_trimLeft (h : ∀ c w, isBlank c → f (c :: w) = f w) (w : Word) :
    f (trimLeft w) = f w := by
  induction w with
  | nil => rfl
  | cons c w ih =>
    by_cases hc : isBlank c
    · rw [h c w hc, ← ih, trimLeft, List.dropWhile_cons_of_pos hc]
      rfl
    · rw [trimLeft, List.dropWhile_cons_of_neg hc]

theorem apply_trimRight (h : ∀ c w, isBlank c → f (w ++ [c]) = f w) (w : Word) :
    f (trimRight w) = f w := by
  induction w using List.reverseRecOn with
  | nil => rfl
  | append_singleton w c ih =>
    rw [trimRight_eq_rdropWhile] at *
    by_cases hc : isBlank c
    · rw [List.rdropWhile_concat_pos _ _ _ hc, h c w hc, ih]
    · rw [List.rdropWhile_concat_neg _ _ _ hc]

/-- What depends on no blank at either end does not depend on trimming. -/
theorem apply_trim (hleft : ∀ c w, isBlank c → f (c :: w) = f w)
    (hright : ∀ c w, isBlank c → f (w ++ [c]) = f w) (w : Word) : f (trim w) = f w := by
  rw [trim, apply_trimRight hright, apply_trimLeft hleft]

end Apply

theorem trim_cons {c : Char} (hc : isBlank c) (w : Word) : trim (c :: w) = trim w := by
  rw [trim, trimLeft, List.dropWhile_cons_of_pos hc]
  rfl

/-- What begins with something that is not blank still does when trimmed. -/
theorem trim_cons_of_not_isBlank {c : Char} (hc : isBlank c = false) (w : Word) :
    trim (c :: w) = c :: trimRight w := by
  have hleft : trimLeft (c :: w) = c :: w := trimLeft_eq_self fun d hd => by
    cases hd
    exact hc
  rw [trim, hleft]
  exact trimRight_append_cons hc [] w

theorem trim_concat {c : Char} (hc : isBlank c) (w : Word) : trim (w ++ [c]) = trim w := by
  rw [trim, trim, trimLeft, trimLeft, List.dropWhile_append]
  split
  · rename_i hall
    rw [List.isEmpty_iff.1 hall, List.dropWhile_cons_of_pos hc, List.dropWhile_nil]
  · rw [trimRight_eq_rdropWhile, List.rdropWhile_concat_pos _ _ _ hc]
    rfl

theorem trim_trimRight (w : Word) : trim (trimRight w) = trim w :=
  apply_trimRight (fun _ w hc => trim_concat hc w) w

end Camouflage.Text
