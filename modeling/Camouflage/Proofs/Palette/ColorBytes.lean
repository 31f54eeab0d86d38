/-
Camouflage/Proofs/Palette/ColorBytes.lean

Reading colors by bytes.  A digit is a character of one byte, and some other
character is looked for before anything is counted.  So reading may as well count
bytes and cut the text at them (`parseByBytes?`): no cut can fail, whatever the text
is, and nothing that is cut out lacks a value (`parseByBytes?_eq`).

With this and the texts of colors, all that there is to know about reading and
writing colors is `parse_spelling`.
-/
import Camouflage.Decimal.Reading
import Camouflage.Proofs.Palette.ColorText
import Camouflage.Proofs.Text.Bytes

namespace Camouflage.Color

/-! ### Reading by bytes -/

/-- A text behind an optional plus sign. -/
def behindPlus : Word → Word
  | '+' :: rest => rest
  | w => w

/-- The byte that hexadecimal digits denote, behind an optional plus sign. -/
def byte? (w : Word) : Option UInt8 :=
  ((Decimal.digits? 16 (behindPlus w)).filter (· < 256)).map UInt8.ofNat

/-- The channel of one digit, which stands for two of its kind, or of more.  What has no value
counts as zero; there is no channel where the product for one digit overflows. -/
def channelOf? (part : Word) (width : Nat) : Option UInt8 :=
  let value := (byte? part).getD 0
  if width = 1 then
    if value.toNat * 17 < 256 then some (value * 17) else none
  else some value

/-- One of the channels of some digits, with so many bytes for each of them.  There is none if it
cannot be cut out. -/
def channelAt? (digits : Word) (width i : Nat) : Option UInt8 := do
  let part ← Text.slice? (i * width) ((i + 1) * width) digits
  channelOf? part width

/-- The three channels, with some bytes for each of them. -/
def channels? (digits : Word) (width : Nat) : Option Color := do
  let red ← channelAt? digits width 0
  let green ← channelAt? digits width 1
  let blue ← channelAt? digits width 2
  return ⟨red, green, blue⟩

/-- Reads a color, but counts and cuts by bytes.  There is no answer if a cut fails. -/
def parseByBytes? (input : Word) : Option (Except ColorFault Color) :=
  let body := Text.trim input
  match body with
  | '#' :: digits =>
    match digits.find? fun c => (hexValue? c).isNone with
    | some bad => some (.error (.badDigit bad body))
    | none =>
      match Text.byteLength digits with
      | 3 => (channels? digits 1).map .ok
      | 6 => (channels? digits 2).map .ok
      | n => some (.error (.digitCount body n))
  | _ => some (.error (.missingMark body))

theorem IsDigit.behindPlus_eq {c : Char} (h : IsDigit c) (w : Word) :
    behindPlus (c :: w) = c :: w := by
  obtain ⟨value, hvalue⟩ := h
  rw [behindPlus]
  rintro rest heq
  cases heq
  exact hvalue.ne_plus rfl

theorem IsDigit.digitValue?_eq {c : Char} (h : IsDigit c) :
    Decimal.digitValue? 16 c = some (hexValue c) := by
  have hvalue : Decimal.digitValue? 16 c = (hexValue? c).filter (· < 16) := rfl
  rw [hvalue, h.denotes.hexValue?_eq, Option.filter_some, decide_eq_true h.denotes.lt]
  rfl

theorem byte?_digit {c : Char} (h : IsDigit c) : byte? [c] = some (UInt8.ofNat (hexValue c)) := by
  have hlt := h.denotes.lt
  have hbelow : hexValue c < 256 := by omega
  have hdigits : Decimal.digits? 16 [c] = some (hexValue c) := by
    simp [Decimal.digits?, Decimal.digitsFrom?, h.digitValue?_eq]
  rw [byte?, h.behindPlus_eq, hdigits, Option.filter_some, decide_eq_true hbelow]
  rfl

theorem byte?_pair {high low : Char} (hhigh : IsDigit high) (hlow : IsDigit low) :
    byte? [high, low] = some (channel high low) := by
  have hupper := hhigh.denotes.lt
  have hlower := hlow.denotes.lt
  have hbelow : 16 * hexValue high + hexValue low < 256 := by omega
  have hdigits : Decimal.digits? 16 [high, low] = some (16 * hexValue high + hexValue low) := by
    simp [Decimal.digits?, Decimal.digitsFrom?, hhigh.digitValue?_eq, hlow.digitValue?_eq,
      Nat.mul_comm]
  rw [byte?, hhigh.behindPlus_eq, hdigits, Option.filter_some, decide_eq_true hbelow]
  rfl

/-- No product overflows. -/
theorem channelOf?_digit {c : Char} (h : IsDigit c) : channelOf? [c] 1 = some (channel c c) := by
  have hlt := h.denotes.lt
  have hvalue : (UInt8.ofNat (hexValue c)).toNat = hexValue c :=
    UInt8.toNat_ofNat_of_lt (show hexValue c < 256 by omega)
  have hpair : (channel c c).toNat = 16 * hexValue c + hexValue c :=
    UInt8.toNat_ofNat_of_lt (show 16 * hexValue c + hexValue c < 256 by omega)
  have hproduct : UInt8.ofNat (hexValue c) * 17 = channel c c := by
    rw [← UInt8.toNat_inj, UInt8.toNat_mul, hvalue, hpair]
    show hexValue c * 17 % 256 = _
    omega
  have hfits : (UInt8.ofNat (hexValue c)).toNat * 17 < 256 := by omega
  rw [channelOf?, byte?_digit h, if_pos rfl, Option.getD_some, if_pos hfits, hproduct]

theorem channelOf?_pair {high low : Char} (hhigh : IsDigit high) (hlow : IsDigit low) :
    channelOf? [high, low] 2 = some (channel high low) := by
  rw [channelOf?, byte?_pair hhigh hlow, if_neg (by decide)]
  rfl

theorem byteLength_digits {digits : Word} (h : ∀ c ∈ digits, IsDigit c) :
    Text.byteLength digits = digits.length :=
  Text.byteLength_eq_length fun c hc => (h c hc).denotes.utf8Size_eq

/-- Between digits every place is one to cut at. -/
theorem channelAt?_eq {digits : Word} (h : ∀ c ∈ digits, IsDigit c) {width i : Nat}
    (front part back : Word) (hdigits : digits = front ++ (part ++ back))
    (hfront : front.length = i * width) (hpart : part.length = width) :
    channelAt? digits width i = channelOf? part width := by
  subst hdigits
  simp only [List.forall_mem_append] at h
  have hslice :
      Text.slice? (i * width) ((i + 1) * width) (front ++ (part ++ back)) = some part := by
    refine Text.slice?_eq_some ?_ ?_
    · rw [byteLength_digits h.1, hfront]
    · rw [byteLength_digits h.2.1, hpart, Nat.succ_mul]
  rw [channelAt?, hslice]
  rfl

theorem channels?_eq_some {digits : Word} {width : Nat} {red green blue : UInt8}
    (hred : channelAt? digits width 0 = some red)
    (hgreen : channelAt? digits width 1 = some green)
    (hblue : channelAt? digits width 2 = some blue) :
    channels? digits width = some ⟨red, green, blue⟩ := by
  rw [channels?, hred, hgreen, hblue]
  rfl

/-- Three digits. -/
theorem channels?_short {x y z : Char} (h : ∀ c ∈ [x, y, z], IsDigit c) :
    channels? [x, y, z] 1 = some ⟨channel x x, channel y y, channel z z⟩ := by
  refine channels?_eq_some ?_ ?_ ?_
  · exact (channelAt?_eq h [] [x] [y, z] rfl rfl rfl).trans (channelOf?_digit (h x (by simp)))
  · exact (channelAt?_eq h [x] [y] [z] rfl rfl rfl).trans (channelOf?_digit (h y (by simp)))
  · exact (channelAt?_eq h [x, y] [z] [] rfl rfl rfl).trans (channelOf?_digit (h z (by simp)))

/-- Six digits. -/
theorem channels?_long {r r' g g' b b' : Char} (h : ∀ c ∈ [r, r', g, g', b, b'], IsDigit c) :
    channels? [r, r', g, g', b, b'] 2
      = some ⟨channel r r', channel g g', channel b b'⟩ := by
  refine channels?_eq_some ?_ ?_ ?_
  · exact (channelAt?_eq h [] [r, r'] [g, g', b, b'] rfl rfl rfl).trans
      (channelOf?_pair (h r (by simp)) (h r' (by simp)))
  · exact (channelAt?_eq h [r, r'] [g, g'] [b, b'] rfl rfl rfl).trans
      (channelOf?_pair (h g (by simp)) (h g' (by simp)))
  · exact (channelAt?_eq h [r, r', g, g'] [b, b'] [] rfl rfl rfl).trans
      (channelOf?_pair (h b (by simp)) (h b' (by simp)))

/-- **Bytes.**  To count and cut by bytes makes no difference: no text makes a cut fail, and nothing
that is cut out lacks a value. -/
theorem parseByBytes?_eq (input : Word) : parseByBytes? input = some (parse input) := by
  rw [parseByBytes?, parse]
  generalize Text.trim input = body
  cases body with
  | nil => rfl
  | cons c digits =>
    by_cases hmark : c = '#'
    · subst hmark
      cases hfind : digits.find? fun c => (hexValue? c).isNone with
      | some bad => simp only [hfind]
      | none =>
        have hdigits := find?_eq_none_iff.1 hfind
        simp only [hfind, byteLength_digits hdigits]
        split
        · next hlength =>
          obtain ⟨x, y, z, rfl⟩ := List.length_eq_three.1 hlength
          rw [channels?_short hdigits]
          rfl
        · next hlength =>
          obtain ⟨r, r', g, g', b, b', rfl⟩ := exists_of_length_six hlength
          rw [channels?_long hdigits]
          rfl
        · next hshort hlong =>
          -- digits in any other number are reported by both
          split
          · exact absurd rfl hshort
          · exact absurd rfl hlong
          · rfl
    · simp [hmark]

/-! ### Color texts -/

/-- **Color texts.**  A text is read exactly if, without the blanks around it, it is a number sign
and three or six hexadecimal digits.  Six digits denote the three bytes pair by pair, and three
digits are read as six, each of them doubled.  Whatever is read, the color is written as its text is
in lower case with six digits, is read back from there, and is written as another one exactly if it
is the same.  To count and cut by bytes never fails, for no text, and gives the same. -/
theorem parse_spelling (input : Word) :
    ((∃ color, parse input = .ok color) ↔
      ∃ digits, Text.trim input = '#' :: digits ∧ (∀ c ∈ digits, IsDigit c) ∧
        (digits.length = 3 ∨ digits.length = 6)) ∧
    (∀ color, parse input = .ok color →
      (∀ r r' g g' b b', Text.trim input = ['#', r, r', g, g', b, b'] →
        DenotePair r r' color.red ∧ DenotePair g g' color.green ∧ DenotePair b b' color.blue) ∧
      (∀ x y z, Text.trim input = ['#', x, y, z] → parse ['#', x, x, y, y, z, z] = .ok color) ∧
      color.text = String.ofList ('#' :: sixDigits (Text.trim input).tail) ∧
      parse color.text.toList = .ok color ∧
      ∀ other color', parse other = .ok color' → (color.text = color'.text ↔ color = color')) ∧
    parseByBytes? input = some (parse input) := by
  refine ⟨?_, fun color hcolor => ?_, parseByBytes?_eq input⟩
  · simp only [parse_eq_ok_iff]
    exact exists_spells_iff
  · have hspells := parse_eq_ok_iff.1 hcolor
    refine ⟨?_, ?_, ?_, ?_, fun other color' _ => text_inj⟩
    · intro r r' g g' b b' hbody
      rw [hbody] at hspells
      cases hspells with
      | long red green blue => exact ⟨red, green, blue⟩
    · intro x y z hbody
      rw [hbody] at hspells
      cases hspells with
      | short red green blue => exact (Spells.long red green blue).parse_eq_ok
    · rw [text, hspells.toWord_eq]
    · rw [text, String.toList_ofList]
      exact parse_toWord color

end Camouflage.Color
