/-
Camouflage/Proofs/Palette/Selecting.lean

Colors that can be drawn are drawn.  A selection is refused because of the
palette or the number of colors, never because of the random words: the
background leaves all other colors of the palette, and a sample of no more than
these has as many colors as it should.

A usable palette lists no color twice (`Palette.validate_eq_ok_iff`), so the
background is none of the foreground colors, and these are all different
(`selectColors_disjoint`).

The palette and the number are looked at before anything is drawn, so a refusal
leaves the stream as it is (`run_drawColors_refused`).  A selection does not show
what a refusal has made of the stream, and for this reason it is the draws that
these theorems are about.
-/
import Mathlib.Data.List.Nodup
import Camouflage.Palette.Selection
import Camouflage.Proofs.Grammar.Adding
import Camouflage.Proofs.Random.Samples

namespace Camouflage

/-! ### Usable palettes -/

namespace Palette

/-- There is no repetition exactly if no color is in `seen` or comes twice. -/
theorem firstRepeat_eq_none_iff {seen colors : List Color} :
    firstRepeat seen colors = none ↔ (∀ c ∈ colors, c ∉ seen) ∧ colors.Nodup := by
  induction colors generalizing seen with
  | nil => simp [firstRepeat]
  | cons c rest ih =>
    rw [firstRepeat, List.nodup_cons]
    by_cases h : c ∈ seen
    · simp [h]
    · rw [if_neg h, ih]
      simp only [List.mem_cons, not_or]
      constructor
      · rintro ⟨hseen, hnodup⟩
        refine ⟨?_, fun hc => (hseen c hc).1 rfl, hnodup⟩
        rintro d (rfl | hd)
        · exact h
        · exact (hseen d hd).2
      · rintro ⟨hseen, hc, hnodup⟩
        refine ⟨fun d hd => ⟨?_, hseen d (Or.inr hd)⟩, hnodup⟩
        rintro rfl
        exact hc hd

/-- A palette is usable exactly if it has two colors or more and none of them twice. -/
theorem validate_eq_ok_iff {palette : Palette} :
    palette.validate = .ok () ↔ 2 ≤ palette.size ∧ palette.colors.Nodup := by
  rw [validate]
  by_cases hsize : palette.size < 2
  · rw [if_pos hsize]
    refine iff_of_false (fun h => ?_) fun h => Nat.not_le.2 hsize h.1
    cases h
  · rw [if_neg hsize]
    cases hrepeat : firstRepeat [] palette.colors with
    | some c =>
      refine iff_of_false (fun h => ?_) fun h => ?_
      · cases h
      · rw [firstRepeat_eq_none_iff.2 ⟨fun _ _ => List.not_mem_nil, h.2⟩] at hrepeat
        cases hrepeat
    | none =>
      exact iff_of_true rfl ⟨Nat.not_lt.1 hsize, (firstRepeat_eq_none_iff.1 hrepeat).2⟩

/-- A palette that can supply a foreground has colors. -/
theorem length_pos {palette : Palette} {count : Nat} (hpos : 0 < count)
    (hmost : count ≤ palette.mostForeground) : 0 < palette.colors.length := by
  rw [mostForeground, size] at hmost
  omega

end Palette

/-! ### Selections -/

variable {σ : Type} [RandomSource σ]

/-- What is not empty has something to choose. -/
theorem Random.exists_choose {α : Type} {pool : List α} (h : 0 < pool.length) (s : σ) :
    ∃ x s', Random.choose pool s = some (x, s') := by
  rw [choose, dif_pos h]
  exact ⟨_, _, rfl⟩

theorem Random.mem_of_choose {α : Type} {pool : List α} {x : α} {s s' : σ}
    (h : Random.choose pool s = some (x, s')) : x ∈ pool := by
  rw [choose] at h
  split at h
  · cases h
    exact List.getElem_mem _
  · cases h

variable {palette : Palette} {count : Nat}

/-- What the palette cannot supply is refused before anything is drawn. -/
theorem run_drawColors_refused
    (h : ¬ (palette.validate = .ok () ∧ 0 < count ∧ count ≤ palette.mostForeground)) (s : σ) :
    ∃ fault, (drawColors palette count).run s = (.error fault, s) := by
  rw [drawColors]
  cases hvalid : palette.validate with
  | error fault => exact ⟨fault, rfl⟩
  | ok _ =>
    have hrefused : count = 0 ∨ palette.mostForeground < count := by
      by_contra hnot
      exact h ⟨hvalid, by omega⟩
    rw [if_pos hrefused]
    exact ⟨_, rfl⟩

/-- All else is drawn, first the background and then a sample of the other colors. -/
theorem run_drawColors (hvalid : palette.validate = .ok ())
    (hcount : 0 < count ∧ count ≤ palette.mostForeground) (hfull : 0 < palette.colors.length)
    {s s₁ s' : σ} {i : Fin palette.colors.length} {foreground : List Color}
    (hdraw : Random.drawBelow .long hfull s = (i, s₁))
    (hsample : Random.sample (palette.colors.eraseIdx i) count s₁ = (foreground, s')) :
    (drawColors palette count).run s = (.ok ⟨palette.colors.get i, foreground⟩, s') := by
  have hsupplied : ¬ (count = 0 ∨ palette.mostForeground < count) := by omega
  rw [drawColors, hvalid, if_neg hsupplied, dif_pos hfull]
  show (let (i, s) := Random.drawBelow .long hfull s
    let (foreground, s) := Random.sample (palette.colors.eraseIdx i) count s
    (Except.ok (ColorSelection.mk palette.colors[i] foreground), s)) = _
  rw [hdraw]
  dsimp only
  rw [hsample]
  rfl

/-- A selection is what is drawn. -/
theorem selectColors_eq_ok {s s' : σ} {colors : ColorSelection} :
    selectColors palette count s = .ok (colors, s') ↔
      (drawColors palette count).run s = (.ok colors, s') := by
  rw [selectColors]
  split
  · next hrun =>
    rw [hrun]
    constructor <;> (intro h; cases h; rfl)
  · next hrun =>
    rw [hrun]
    constructor <;> (intro h; cases h)

/-- What makes up a selection: a usable palette with enough colors, a color of it as background and
a sample of the others as foreground. -/
theorem selectColors_eq_ok_iff {palette : Palette} {count : Nat} {s s' : σ}
    {colors : ColorSelection} :
    selectColors palette count s = .ok (colors, s') ↔
      palette.validate = .ok () ∧ (0 < count ∧ count ≤ palette.mostForeground) ∧
        ∃ (h : 0 < palette.colors.length) (i : Fin palette.colors.length) (s₁ : σ),
          Random.drawBelow .long h s = (i, s₁) ∧ colors.background = palette.colors.get i ∧
          Random.sample (palette.colors.eraseIdx i) count s₁ = (colors.foreground, s') := by
  rw [selectColors_eq_ok]
  constructor
  · intro h
    by_cases hsupplied :
        palette.validate = .ok () ∧ 0 < count ∧ count ≤ palette.mostForeground
    · obtain ⟨hvalid, hcount⟩ := hsupplied
      have hfull := Palette.length_pos hcount.1 hcount.2
      rcases hdraw : Random.drawBelow .long hfull s with ⟨i, s₁⟩
      rcases hsample : Random.sample (palette.colors.eraseIdx i) count s₁ with ⟨foreground, s₂⟩
      rw [run_drawColors hvalid hcount hfull hdraw hsample] at h
      cases h
      exact ⟨hvalid, hcount, hfull, i, s₁, hdraw, rfl, hsample⟩
    · obtain ⟨fault, hrun⟩ := run_drawColors_refused hsupplied s
      rw [hrun] at h
      cases h
  · rintro ⟨hvalid, hcount, hfull, i, s₁, hdraw, hbackground, hsample⟩
    rw [run_drawColors hvalid hcount hfull hdraw hsample, ← hbackground]

/-- **Selections.**  The background is a color of the palette, and the foreground are so many others,
none of them twice. -/
theorem selectColors_disjoint {palette : Palette} {count : Nat} {s s' : σ}
    {colors : ColorSelection} (h : selectColors palette count s = .ok (colors, s')) :
    colors.background ∈ palette.colors ∧ colors.background ∉ colors.foreground ∧
      colors.foreground.Nodup ∧ colors.foreground.length = count ∧
      ∀ c ∈ colors.foreground, c ∈ palette.colors := by
  obtain ⟨hvalid, ⟨-, hmost⟩, -, i, s₁, -, hbackground, hsample⟩ := selectColors_eq_ok_iff.1 h
  have hnodup := (Palette.validate_eq_ok_iff.1 hvalid).2
  have hlength : count ≤ (palette.colors.eraseIdx i).length := by
    rw [List.length_eraseIdx_of_lt i.isLt]
    exact hmost
  obtain ⟨hforeground, hothers⟩ := Random.nodup_sample (hnodup.eraseIdx _) hlength s₁
  have hcount := Random.length_sample hlength s₁
  rw [hsample] at hforeground hothers hcount
  refine ⟨hbackground ▸ List.get_mem palette.colors i, ?_, hforeground, hcount, ?_⟩
  · -- what is left of the palette has lost the background
    intro hmem
    have hleft := hothers _ hmem
    rw [← hnodup.erase_getElem _ i.isLt, hbackground, List.get_eq_getElem] at hleft
    exact hnodup.not_mem_erase hleft
  · intro c hc
    exact List.mem_of_mem_eraseIdx (hothers c hc)

/-- The palette is usable and has enough colors, so that the selection has the number asked for. -/
theorem exists_selectColors {palette : Palette} {count : Nat} (hvalid : palette.validate = .ok ())
    (hpos : 0 < count) (hmost : count ≤ palette.mostForeground) (s : σ) :
    ∃ colors s', selectColors palette count s = .ok (colors, s') ∧
      colors.foreground.length = count := by
  have hfull := Palette.length_pos hpos hmost
  rcases hdraw : Random.drawBelow .long hfull s with ⟨i, s₁⟩
  rcases hsample : Random.sample (palette.colors.eraseIdx i) count s₁ with ⟨foreground, s'⟩
  have hselect : selectColors palette count s = .ok (⟨palette.colors.get i, foreground⟩, s') :=
    selectColors_eq_ok_iff.2 ⟨hvalid, ⟨hpos, hmost⟩, hfull, i, s₁, hdraw, rfl, hsample⟩
  obtain ⟨-, -, -, hlength, -⟩ := selectColors_disjoint hselect
  exact ⟨_, s', hselect, hlength⟩

/-- **Selections are exact.**  Colors are drawn exactly if the palette has two colors or more and
none of them twice, and if one to all but one of them are asked for.  What is refused leaves the
stream as it is.  What is drawn are a background and so many different foreground colors, all of the
palette, and none of them the background. -/
theorem drawColors_exact (palette : Palette) (count : Nat) (s : σ) :
    ((∃ colors s', (drawColors palette count).run s = (.ok colors, s')) ↔
      2 ≤ palette.size ∧ palette.colors.Nodup ∧ 1 ≤ count ∧ count ≤ palette.size - 1) ∧
    (∀ fault s', (drawColors palette count).run s = (.error fault, s') → s' = s) ∧
    ∀ colors s', (drawColors palette count).run s = (.ok colors, s') →
      colors.background ∈ palette.colors ∧ colors.background ∉ colors.foreground ∧
        colors.foreground.Nodup ∧ colors.foreground.length = count ∧
        ∀ c ∈ colors.foreground, c ∈ palette.colors := by
  refine ⟨⟨?_, ?_⟩, ?_, ?_⟩
  · rintro ⟨colors, s', hrun⟩
    obtain ⟨hvalid, ⟨hpos, hmost⟩, -⟩ := selectColors_eq_ok_iff.1 (selectColors_eq_ok.2 hrun)
    obtain ⟨hsize, hnodup⟩ := Palette.validate_eq_ok_iff.1 hvalid
    exact ⟨hsize, hnodup, hpos, hmost⟩
  · rintro ⟨hsize, hnodup, hpos, hmost⟩
    have hvalid := Palette.validate_eq_ok_iff.2 ⟨hsize, hnodup⟩
    obtain ⟨colors, s', hselect, -⟩ := exists_selectColors hvalid hpos hmost s
    exact ⟨colors, s', selectColors_eq_ok.1 hselect⟩
  · intro fault s' hrun
    by_cases hsupplied : palette.validate = .ok () ∧ 0 < count ∧ count ≤ palette.mostForeground
    · -- a failure would have to come from the random words, but the selection succeeds
      obtain ⟨hvalid, hpos, hmost⟩ := hsupplied
      obtain ⟨colors, s₁, hselect, -⟩ := exists_selectColors hvalid hpos hmost s
      rw [selectColors_eq_ok.1 hselect] at hrun
      cases hrun
    · obtain ⟨fault', hrefused⟩ := run_drawColors_refused hsupplied s
      rw [hrefused] at hrun
      cases hrun
      rfl
  · intro colors s' hrun
    exact selectColors_disjoint (selectColors_eq_ok.2 hrun)

end Camouflage
