/-
Camouflage/Proofs/Palette/ColorText.lean

Colors and their texts.  A text is a color exactly if, blanks around it aside, it is
a number sign and three or six hexadecimal digits, each in either case
(`parse_eq_ok_iff`).

A digit denotes its place among the sixteen digits of its case, and two digits
denote a byte.  The digits in which a byte is written are the lower case form of all
digits that denote it.  So a color is written as any of its texts is in lower case
with six digits (`Spells.toWord_eq`), and what is written can be read back
(`parse_toWord`).
-/
import Mathlib.Tactic.IntervalCases
import Camouflage.Palette.Color
import Camouflage.Proofs.Text.Trim

namespace Camouflage.Color

/-! ### Digits -/

/-- The lower case digits, in the order of their values. -/
def lowerDigits : Word := "0123456789abcdef".toList

/-- The upper case digits, in the order of their values. -/
def upperDigits : Word := "0123456789ABCDEF".toList

/-- A digit of either case denotes its place among the digits of its case. -/
def Denotes (digit : Char) (value : Nat) : Prop :=
  lowerDigits[value]? = some digit ∨ upperDigits[value]? = some digit

theorem Denotes.lt {digit : Char} {value : Nat} (h : Denotes digit value) : value < 16 := by
  rcases h with h | h
  · exact (List.getElem?_eq_some_iff.1 h).1
  · exact (List.getElem?_eq_some_iff.1 h).1

namespace Denotes

variable {c : Char} {n : Nat} (h : Denotes c n)
include h

/-- What is looked up in the two rows of digits. -/
theorem digit : hexValue? c = some n ∧ c.toLower = hexDigit n ∧ c.utf8Size = 1 ∧
    Text.isBlank c = false ∧ c ≠ '+' := by
  have hn := h.lt
  rcases h with h | h
  all_goals
    interval_cases n <;> (cases h; decide)

theorem hexValue?_eq : hexValue? c = some n := h.digit.1

theorem toLower_eq : c.toLower = hexDigit n := h.digit.2.1

theorem utf8Size_eq : c.utf8Size = 1 := h.digit.2.2.1

theorem not_isBlank : Text.isBlank c = false := h.digit.2.2.2.1

theorem ne_plus : c ≠ '+' := h.digit.2.2.2.2

end Denotes

theorem denotes_of_hexValue? {c : Char} {n : Nat} (h : hexValue? c = some n) : Denotes c n := by
  rw [← Char.ofNat_toNat c]
  rw [hexValue?] at h
  generalize c.toNat = code at h
  split_ifs at h with hdecimal hlower hupper
  · obtain ⟨hleast, hmost⟩ := hdecimal
    cases h
    left
    interval_cases code <;> rfl
  · obtain ⟨hleast, hmost⟩ := hlower
    cases h
    left
    interval_cases code <;> rfl
  · obtain ⟨hleast, hmost⟩ := hupper
    cases h
    right
    interval_cases code <;> rfl

theorem hexValue?_eq_some_iff {c : Char} {n : Nat} : hexValue? c = some n ↔ Denotes c n :=
  ⟨denotes_of_hexValue?, fun h => h.hexValue?_eq⟩

/-- A hexadecimal digit of either case. -/
def IsDigit (c : Char) : Prop := ∃ value, Denotes c value

theorem isNone_hexValue?_eq_false_iff {c : Char} : (hexValue? c).isNone = false ↔ IsDigit c := by
  rw [Option.isNone_eq_false_iff, Option.isSome_iff_exists]
  exact exists_congr fun _ => hexValue?_eq_some_iff

theorem IsDigit.denotes {c : Char} (h : IsDigit c) : Denotes c (hexValue c) := by
  obtain ⟨value, hvalue⟩ := h
  have hget : hexValue c = value := by
    rw [hexValue, hvalue.hexValue?_eq]
    rfl
  rwa [hget]

theorem denotes_hexDigit {n : Nat} (h : n < 16) : Denotes (hexDigit n) n := by
  left
  interval_cases n <;> rfl

/-- The two digits that stand for a byte. -/
def DenotePair (high low : Char) (byte : UInt8) : Prop :=
  ∃ upper lower, Denotes high upper ∧ Denotes low lower ∧ byte.toNat = 16 * upper + lower

theorem denotePair_channel {high low : Char} (hhigh : IsDigit high) (hlow : IsDigit low) :
    DenotePair high low (channel high low) := by
  refine ⟨hexValue high, hexValue low, hhigh.denotes, hlow.denotes, ?_⟩
  have hupper := hhigh.denotes.lt
  have hlower := hlow.denotes.lt
  rw [channel]
  exact UInt8.toNat_ofNat_of_lt (show 16 * hexValue high + hexValue low < 256 by omega)

namespace DenotePair

variable {high low : Char} {byte : UInt8} (h : DenotePair high low byte)
include h

theorem isDigit : IsDigit high ∧ IsDigit low := by
  obtain ⟨upper, lower, hhigh, hlow, -⟩ := h
  exact ⟨⟨upper, hhigh⟩, ⟨lower, hlow⟩⟩

theorem channel_eq : channel high low = byte := by
  obtain ⟨upper, lower, hhigh, hlow, hbyte⟩ := h
  rw [channel, hexValue, hexValue, hhigh.hexValue?_eq, hlow.hexValue?_eq, Option.getD_some,
    Option.getD_some, ← hbyte]
  exact UInt8.ofNat_toNat

/-- The digits of a byte are the lower case form of any digits that denote it. -/
theorem channelDigits_eq : channelDigits byte = [high.toLower, low.toLower] := by
  obtain ⟨upper, lower, hhigh, hlow, hbyte⟩ := h
  have hlower := hlow.lt
  have hdiv : byte.toNat / 16 = upper := by omega
  have hmod : byte.toNat % 16 = lower := by omega
  rw [channelDigits, hdiv, hmod, hhigh.toLower_eq, hlow.toLower_eq]

end DenotePair

/-- A byte is denoted by its own digits. -/
theorem denotePair_hexDigits (byte : UInt8) :
    DenotePair (hexDigit (byte.toNat / 16)) (hexDigit (byte.toNat % 16)) byte := by
  have hbyte := byte.toNat_lt
  refine ⟨byte.toNat / 16, byte.toNat % 16, denotes_hexDigit (by omega),
    denotes_hexDigit (by omega), ?_⟩
  omega

/-! ### What is read -/

/-- The texts of a color: three digits, each of which stands for two, or six. -/
inductive Spells : Word → Color → Prop
  | short {x y z : Char} {color : Color} (red : DenotePair x x color.red)
    (green : DenotePair y y color.green) (blue : DenotePair z z color.blue) :
    Spells ['#', x, y, z] color
  | long {r r' g g' b b' : Char} {color : Color} (red : DenotePair r r' color.red)
    (green : DenotePair g g' color.green) (blue : DenotePair b b' color.blue) :
    Spells ['#', r, r', g, g', b, b'] color

theorem spells_short {x y z : Char} (h : ∀ c ∈ [x, y, z], IsDigit c) :
    Spells ['#', x, y, z] ⟨channel x x, channel y y, channel z z⟩ := by
  simp only [List.forall_mem_cons] at h
  obtain ⟨hx, hy, hz, -⟩ := h
  exact .short (denotePair_channel hx hx) (denotePair_channel hy hy) (denotePair_channel hz hz)

theorem spells_long {r r' g g' b b' : Char} (h : ∀ c ∈ [r, r', g, g', b, b'], IsDigit c) :
    Spells ['#', r, r', g, g', b, b'] ⟨channel r r', channel g g', channel b b'⟩ := by
  simp only [List.forall_mem_cons] at h
  obtain ⟨hr, hr', hg, hg', hb, hb', -⟩ := h
  exact .long (denotePair_channel hr hr') (denotePair_channel hg hg') (denotePair_channel hb hb')

theorem find?_eq_none_iff {digits : Word} :
    (digits.find? fun c => (hexValue? c).isNone) = none ↔ ∀ c ∈ digits, IsDigit c := by
  rw [List.find?_eq_none]
  refine forall₂_congr fun c _ => ?_
  rw [← isNone_hexValue?_eq_false_iff, Bool.not_eq_true]

/-- **Reading.**  A text is read as a color exactly if it is a text of this color, blanks around it
aside. -/
theorem parse_eq_ok_iff {input : Word} {color : Color} :
    parse input = .ok color ↔ Spells (Text.trim input) color := by
  constructor
  · intro h
    rw [parse] at h
    split at h
    · next digits hbody =>
      rw [hbody]
      split at h
      · cases h
      · next hfind =>
        have hdigits := find?_eq_none_iff.1 hfind
        split at h
        · cases h
          exact spells_short hdigits
        · cases h
          exact spells_long hdigits
        · cases h
    · cases h
  · intro h
    rw [parse]
    generalize Text.trim input = body at h
    cases h with
    | @short x y z _ red green blue =>
      have hdigits : ∀ c ∈ [x, y, z], IsDigit c := by
        simp [red.isDigit, green.isDigit, blue.isDigit]
      simp only [find?_eq_none_iff.2 hdigits, red.channel_eq, green.channel_eq, blue.channel_eq]
    | @long r r' g g' b b' _ red green blue =>
      have hdigits : ∀ c ∈ [r, r', g, g', b, b'], IsDigit c := by
        simp [red.isDigit, green.isDigit, blue.isDigit]
      simp only [find?_eq_none_iff.2 hdigits, red.channel_eq, green.channel_eq, blue.channel_eq]

theorem exists_of_length_six {digits : Word} (h : digits.length = 6) :
    ∃ r r' g g' b b', digits = [r, r', g, g', b, b'] := by
  match digits, h with
  | [r, r', g, g', b, b'], _ => exact ⟨r, r', g, g', b, b', rfl⟩

/-- Three or six digits behind a number sign are a text of some color. -/
theorem exists_spells_iff {body : Word} : (∃ color, Spells body color) ↔
    ∃ digits, body = '#' :: digits ∧ (∀ c ∈ digits, IsDigit c) ∧
      (digits.length = 3 ∨ digits.length = 6) := by
  constructor
  · rintro ⟨color, h⟩
    cases h with
    | short red green blue =>
      exact ⟨_, rfl, by simp [red.isDigit, green.isDigit, blue.isDigit], Or.inl rfl⟩
    | long red green blue =>
      exact ⟨_, rfl, by simp [red.isDigit, green.isDigit, blue.isDigit], Or.inr rfl⟩
  · rintro ⟨digits, rfl, hdigits, hlength | hlength⟩
    · obtain ⟨x, y, z, rfl⟩ := List.length_eq_three.1 hlength
      exact ⟨_, spells_short hdigits⟩
    · obtain ⟨r, r', g, g', b, b', rfl⟩ := exists_of_length_six hlength
      exact ⟨_, spells_long hdigits⟩

/-- Digits behind a number sign have no blanks around them. -/
theorem trim_digits {digits : Word} (h : ∀ c ∈ digits, IsDigit c) :
    Text.trim ('#' :: digits) = '#' :: digits := by
  have hmark : Text.isBlank '#' = false := by decide
  refine Text.trim_eq_self ⟨fun c hc => ?_, fun c hc => ?_⟩
  · cases hc
    exact hmark
  · rcases List.mem_cons.1 (List.mem_of_getLast? hc) with rfl | hmem
    · exact hmark
    · obtain ⟨value, hvalue⟩ := h c hmem
      exact hvalue.not_isBlank

namespace Spells

variable {body : Word} {color : Color} (h : Spells body color)
include h

theorem trim_eq : Text.trim body = body := by
  obtain ⟨digits, rfl, hdigits, -⟩ := exists_spells_iff.1 ⟨color, h⟩
  exact trim_digits hdigits

theorem parse_eq_ok : parse body = .ok color := by
  rw [parse_eq_ok_iff, h.trim_eq]
  exact h

end Spells

/-! ### The written form -/

/-- The six lower case digits that three or six digits stand for. -/
def sixDigits : Word → Word
  | [x, y, z] => [x, x, y, y, z, z].map Char.toLower
  | digits => digits.map Char.toLower

/-- A color is written as any of its texts is in lower case with six digits. -/
theorem Spells.toWord_eq {body : Word} {color : Color} (h : Spells body color) :
    color.toWord = '#' :: sixDigits body.tail := by
  cases h with
  | short red green blue =>
    rw [toWord, red.channelDigits_eq, green.channelDigits_eq, blue.channelDigits_eq]
    rfl
  | long red green blue =>
    rw [toWord, red.channelDigits_eq, green.channelDigits_eq, blue.channelDigits_eq]
    rfl

/-- The written form is a text of the color. -/
theorem spells_toWord (color : Color) : Spells color.toWord color :=
  .long (denotePair_hexDigits _) (denotePair_hexDigits _) (denotePair_hexDigits _)

/-- What is written is read back. -/
theorem parse_toWord (color : Color) : parse color.toWord = .ok color :=
  (spells_toWord color).parse_eq_ok

theorem text_inj {color color' : Color} : color.text = color'.text ↔ color = color' := by
  refine ⟨fun h => ?_, congrArg text⟩
  have hparse := parse_toWord color
  rw [String.ofList_injective h, parse_toWord] at hparse
  cases hparse
  rfl

end Camouflage.Color
