/-
Camouflage/Proofs/Text/Bytes.lean

Texts by their bytes.  A character takes one to four bytes, and a place in a text
can be given by the number of bytes in front of it.  A text can be cut at such a
place exactly if it lies between two characters (`cut?_eq_some_iff`); a place
beyond the end, or inside a character, has no text on either side.

Where every character takes one byte, places are indices and nothing of this
matters.
-/
import Camouflage.Text.Blank

namespace Camouflage.Text

/-- The number of bytes of a text. -/
def byteLength : Word → Nat
  | [] => 0
  | c :: w => c.utf8Size + byteLength w

theorem byteLength_cons (c : Char) (w : Word) : byteLength (c :: w) = c.utf8Size + byteLength w :=
  rfl

theorem byteLength_eq_length {w : Word} (h : ∀ c ∈ w, c.utf8Size = 1) :
    byteLength w = w.length := by
  induction w with
  | nil => rfl
  | cons c w ih =>
    rw [byteLength_cons, h c List.mem_cons_self, ih fun d hd => h d (List.mem_cons_of_mem c hd),
      List.length_cons, Nat.add_comm]

/-! ### Cuts -/

/-- A text cut behind some bytes, unless there are fewer or the cut goes through a character. -/
def cut? : Nat → Word → Option (Word × Word)
  | 0, w => some ([], w)
  | _ + 1, [] => none
  | n + 1, c :: w =>
    if c.utf8Size ≤ n + 1 then
      (cut? (n + 1 - c.utf8Size) w).map fun parts => (c :: parts.1, parts.2)
    else none

theorem cut?_byteLength (front back : Word) :
    cut? (byteLength front) (front ++ back) = some (front, back) := by
  induction front with
  | nil =>
    show cut? 0 back = some ([], back)
    rw [cut?]
  | cons c front ih =>
    have hpos := c.utf8Size_pos
    obtain ⟨n, hn⟩ : ∃ n, byteLength (c :: front) = n + 1 :=
      ⟨byteLength (c :: front) - 1, by rw [byteLength_cons]; omega⟩
    have hrest : n + 1 - c.utf8Size = byteLength front := by
      rw [← hn, byteLength_cons, Nat.add_sub_cancel_left]
    have hfits : c.utf8Size ≤ n + 1 := by
      rw [← hn, byteLength_cons]
      exact Nat.le_add_right _ _
    rw [hn, List.cons_append, cut?, if_pos hfits, hrest, ih]
    rfl

/-- A text is cut exactly where some of its characters end. -/
theorem cut?_eq_some_iff {n : Nat} {w front back : Word} :
    cut? n w = some (front, back) ↔ w = front ++ back ∧ n = byteLength front := by
  constructor
  · intro h
    induction w generalizing n front with
    | nil =>
      cases n with
      | zero =>
        cases h
        exact ⟨rfl, rfl⟩
      | succ n => cases h
    | cons c w ih =>
      cases n with
      | zero =>
        cases h
        exact ⟨rfl, rfl⟩
      | succ n =>
        rw [cut?] at h
        split at h
        · next hfits =>
          obtain ⟨⟨front', back'⟩, hcut, heq⟩ := Option.map_eq_some_iff.1 h
          cases heq
          obtain ⟨rfl, hlength⟩ := ih hcut
          refine ⟨rfl, ?_⟩
          show n + 1 = c.utf8Size + byteLength front'
          omega
        · cases h
  · rintro ⟨rfl, rfl⟩
    exact cut?_byteLength front back

/-- The text from one place to another, if both are places between characters. -/
def slice? (first last : Nat) (w : Word) : Option Word :=
  if first ≤ last then do
    let (_, behind) ← cut? first w
    let (part, _) ← cut? (last - first) behind
    return part
  else none

/-- What stands between two places is found there. -/
theorem slice?_eq_some {first last : Nat} {front part back : Word}
    (hfirst : first = byteLength front) (hlast : last = first + byteLength part) :
    slice? first last (front ++ (part ++ back)) = some part := by
  have hle : first ≤ last := by omega
  have hfront : cut? first (front ++ (part ++ back)) = some (front, part ++ back) :=
    cut?_eq_some_iff.2 ⟨rfl, hfirst⟩
  have hpart : cut? (last - first) (part ++ back) = some (part, back) :=
    cut?_eq_some_iff.2 ⟨rfl, by omega⟩
  rw [slice?, if_pos hle, hfront]
  show (cut? (last - first) (part ++ back)).bind _ = some part
  rw [hpart]
  rfl

end Camouflage.Text
