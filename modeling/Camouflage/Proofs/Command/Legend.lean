/-
Camouflage/Proofs/Command/Legend.lean

The legend of a pattern.  The lines about a palette are printed without making a
pattern, but they tell the colors of the pattern that there would be: every color
of the palette has a line, in order, and its mark says whether it is the
background, one of the foreground, or neither (`Legend`).

Both take their colors from the stream of the seed before anything else is drawn
from it, so they select alike.  That the marks can be counted is due to the
palette, which has no color twice, and to the selection, whose background is none
of its foreground.
-/
import Camouflage.Command.Program
import Camouflage.Proofs.Pattern.Trees
import Mathlib.Data.List.Nodup

namespace Camouflage

/-! ### Marks -/

/-- Marks for the colors of a palette, one for each and in order, that fit a pattern. -/
structure Legend {α : Type} (config : Config α) (pattern : Pattern α) (marks : List String) :
    Prop where
  length_eq : marks.length = config.palette.size
  one_background : marks.count "background" = 1
  count_foreground : marks.count "foreground" = config.colorCount.toNat
  background_iff : ∀ c,
    (c, "background") ∈ config.palette.colors.zip marks ↔ c = pattern.background
  foreground_iff : ∀ c,
    (c, "foreground") ∈ config.palette.colors.zip marks ↔ c ∈ pattern.foreground
  no_other : ∀ mark ∈ marks, mark = "background" ∨ mark = "foreground" ∨ mark = ""

namespace Program

variable {selection : ColorSelection}

theorem role_eq_background_iff {c : Color} :
    role selection c = "background" ↔ c = selection.background := by
  rw [role]
  split
  · next h => exact iff_of_true rfl h
  · next h =>
    refine iff_of_false ?_ h
    split <;> decide

theorem role_eq_foreground_iff (hdisjoint : selection.background ∉ selection.foreground)
    {c : Color} : role selection c = "foreground" ↔ c ∈ selection.foreground := by
  rw [role]
  split
  · next h => exact iff_of_false (by decide) (h ▸ hdisjoint)
  · split
    · next h => exact iff_of_true rfl h
    · next h => exact iff_of_false (by decide) h

theorem role_eq (selection : ColorSelection) (c : Color) : role selection c = "background" ∨
    role selection c = "foreground" ∨ role selection c = "" := by
  rw [role]
  split
  · exact Or.inl rfl
  · split
    · exact Or.inr (Or.inl rfl)
    · exact Or.inr (Or.inr rfl)

/-- A color is listed with its role. -/
theorem mem_zip_roles_iff {colors : List Color} {c : Color} {mark : String} :
    (c, mark) ∈ colors.zip (colors.map (role selection)) ↔
      c ∈ colors ∧ role selection c = mark := by
  rw [← List.map_prod_left_eq_zip, List.mem_map]
  constructor
  · rintro ⟨d, hd, heq⟩
    obtain ⟨rfl, rfl⟩ := Prod.mk.inj heq
    exact ⟨hd, rfl⟩
  · rintro ⟨hc, rfl⟩
    exact ⟨c, hc, rfl⟩

/-- A role occurs once for each color that has it. -/
theorem count_roles {colors chosen : List Color} (hcolors : colors.Nodup) (hchosen : chosen.Nodup)
    (hsubset : ∀ c ∈ chosen, c ∈ colors) {mark : String}
    (hrole : ∀ c, role selection c = mark ↔ c ∈ chosen) :
    (colors.map (role selection)).count mark = chosen.length := by
  -- the colors with the role are those chosen, in another order
  have hperm : (colors.filter fun c => c ∈ chosen).Perm chosen := by
    refine (List.perm_ext_iff_of_nodup (hcolors.filter _) hchosen).2 fun c => ?_
    rw [List.mem_filter, decide_eq_true_iff]
    exact ⟨And.right, fun hc => ⟨hsubset c hc, hc⟩⟩
  rw [← hperm.length_eq, ← List.countP_eq_length_filter, List.count_eq_countP, List.countP_map]
  refine List.countP_congr fun c _ => ?_
  rw [Function.comp_apply, beq_iff_eq, decide_eq_true_iff]
  exact hrole c

/-- **Marks.**  The roles of the colors of a palette are a legend of every pattern that has these
colors. -/
theorem legend_roles {α : Type} {config : Config α} {pattern : Pattern α}
    {σ : Type} [RandomSource σ] {s s' : σ}
    (h : selectColors config.palette config.colorCount.toNat s =
      .ok (⟨pattern.background, pattern.foreground⟩, s')) :
    Legend config pattern
      (config.palette.colors.map (role ⟨pattern.background, pattern.foreground⟩)) := by
  obtain ⟨hbackground, hdisjoint, hforeground, hlength, hsubset⟩ := selectColors_disjoint h
  have hcolors := (Palette.validate_eq_ok_iff.1 (selectColors_eq_ok_iff.1 h).1).2
  have hone : ∀ c ∈ [pattern.background], c ∈ config.palette.colors := by
    intro c hc
    rwa [List.mem_singleton.1 hc]
  refine ⟨List.length_map _, ?_, ?_, fun c => ?_, fun c => ?_, fun mark hmark => ?_⟩
  · refine count_roles hcolors (List.nodup_singleton _) hone fun c => ?_
    rw [role_eq_background_iff, List.mem_singleton]
  · rw [← hlength]
    exact count_roles hcolors hforeground hsubset fun c => role_eq_foreground_iff hdisjoint
  · rw [mem_zip_roles_iff, role_eq_background_iff, and_iff_right_iff_imp]
    rintro rfl
    exact hbackground
  · rw [mem_zip_roles_iff, role_eq_foreground_iff hdisjoint, and_iff_right_iff_imp]
    exact hsubset c
  · obtain ⟨c, -, rfl⟩ := List.mem_map.1 hmark
    exact role_eq _ c

/-! ### Lines -/

/-- **The legend is that of the pattern.**  Where there is a pattern, the lines about the palette are
a heading and a line for every color with its mark, and the marks fit the pattern.  The color of
every tree is marked as one of the foreground. -/
theorem paletteLines_legend {config : Config Float} {pattern : Pattern Float}
    (h : config.generate = .ok pattern) :
    ∃ marks,
      paletteLines config = .ok
        (("Palette (" ++ toString config.palette.size ++ " colors), seed "
            ++ toString config.seed.toNat ++ ":")
          :: List.zipWith (fun c mark => "  " ++ c.text ++ " " ++ mark) config.palette.colors
            marks) ∧
      Legend config pattern marks ∧
      ∀ tree ∈ pattern.trees, (tree.color, "foreground") ∈ config.palette.colors.zip marks := by
  obtain ⟨rules, grown, hgrown⟩ := Config.exists_grown h
  obtain ⟨s₁, s₂, hcolors, -⟩ := hgrown.grows
  have hlegend := legend_roles hcolors
  refine ⟨_, ?_, hlegend, fun tree htree => ?_⟩
  · rw [paletteLines, hcolors, List.zipWith_map_right, List.zipWith_self]
    rfl
  · obtain ⟨_, _, _, hsprouts⟩ := hgrown.exists_of_mem htree
    obtain ⟨_, -, hchoose⟩ := hsprouts.painted
    exact (hlegend.foreground_iff _).2 (Random.mem_of_choose hchoose)

/-- The statement at a hedge, of which there is a pattern. -/
theorem paletteLines_legend_hedge : ∃ pattern, Config.hedge.generate = .ok pattern ∧
    ∃ marks,
      paletteLines Config.hedge = .ok ("Palette (10 colors), seed 42:"
        :: List.zipWith (fun c mark => "  " ++ c.text ++ " " ++ mark) Palette.urban.colors
          marks) ∧
      Legend Config.hedge pattern marks ∧
      ∀ tree ∈ pattern.trees, (tree.color, "foreground") ∈ Palette.urban.colors.zip marks := by
  obtain ⟨pattern, hpattern⟩ :=
    Config.hedge_passes.exists_pattern (Keystream.ofSeed Config.hedge.seed)
  exact ⟨pattern, hpattern, paletteLines_legend hpattern⟩

end Program

end Camouflage
