/-
Camouflage/Grammar/Mapping.lean

Mapping notation: a brace, entries `'F': 'FF'` between commas, a brace.
Quotes are single or double, a backslash inside them stands for the character
after it, a comma may follow the last entry, and blanks may stand between any
two tokens.

The reader goes over the text once.  Every step takes the text that is left and
gives back a shorter one, which is why the loop over entries ends
(`quoted_length`).  A fault carries the number of characters read so far; as the
reader holds the rest, that number is the size of the whole less what is left.
-/
import Camouflage.Grammar.RuleSet

namespace Camouflage.Mapping

/-- A fault at the point where `rest` is still unread, in a text of `size` characters. -/
def stuck {α : Type} (size : Nat) (cause : Nat → GrammarFault) (rest : Word) : Outcome α :=
  .error (.grammar (cause (size - rest.length)))

/-- Skips blanks, then wants one mark. -/
def mark (size : Nat) (wanted : Char) (text : Word) : Outcome Word :=
  match Text.trimLeft text with
  | [] => stuck size (.expectedMark wanted none) []
  | c :: rest =>
    if c = wanted then .ok rest else stuck size (.expectedMark wanted (some c)) rest

/-- The content of a quoted string up to its closing quote, and the text behind it. -/
def content (size : Nat) (quote : Char) : Word → Outcome (Word × Word)
  | [] => stuck size .unterminated []
  | '\\' :: [] => stuck size .unterminated []
  | '\\' :: c :: rest => do
    let (value, rest) ← content size quote rest
    .ok (c :: value, rest)
  | c :: rest =>
    if c = quote then .ok ([], rest)
    else do
      let (value, rest) ← content size quote rest
      .ok (c :: value, rest)

/-- Skips blanks, then reads a quoted string. -/
def quoted (size : Nat) (text : Word) : Outcome (Word × Word) :=
  match Text.trimLeft text with
  | [] => stuck size (.expectedQuoted none) []
  | c :: rest =>
    if c = '\x27' || c = '\x22' then content size c rest
    else stuck size (.expectedQuoted (some c)) rest

/-! ### Every step shortens the text -/

theorem trimLeft_length (text : Word) : (Text.trimLeft text).length ≤ text.length :=
  (List.dropWhile_sublist _).length_le

theorem mark_length {size : Nat} {wanted : Char} {text rest : Word}
    (h : mark size wanted text = .ok rest) : rest.length < text.length := by
  have := trimLeft_length text
  unfold mark at h
  split at h
  · simp [stuck] at h
  · rename_i c r heq
    split at h
    · cases h; simp [heq] at this; omega
    · simp [stuck] at h

theorem content_length {size : Nat} {quote : Char} {text value rest : Word}
    (h : content size quote text = .ok (value, rest)) : rest.length < text.length := by
  fun_induction content size quote text generalizing value rest with
  | case1 => simp [stuck] at h
  | case2 => simp [stuck] at h
  | case3 c r ih =>
    cases hr : content size quote r with
    | error e => simp [hr, bind, Except.bind] at h
    | ok p =>
      obtain ⟨v, r'⟩ := p
      simp only [hr, bind, Except.bind, Except.ok.injEq, Prod.mk.injEq] at h
      have := ih hr
      obtain ⟨_, rfl⟩ := h
      simp only [List.length_cons]
      omega
  | case4 r => simp_all
  | case5 c r _ _ _ ih =>
    cases hr : content size quote r with
    | error e => simp [hr, bind, Except.bind] at h
    | ok p =>
      obtain ⟨v, r'⟩ := p
      simp only [hr, bind, Except.bind, Except.ok.injEq, Prod.mk.injEq] at h
      have := ih hr
      obtain ⟨_, rfl⟩ := h
      simp only [List.length_cons]
      omega

theorem quoted_length {size : Nat} {text value rest : Word}
    (h : quoted size text = .ok (value, rest)) : rest.length < text.length := by
  have := trimLeft_length text
  unfold quoted at h
  split at h
  · simp [stuck] at h
  · rename_i c r heq
    split at h
    · have := content_length h
      simp [heq] at *
      omega
    · simp [stuck] at h

/-! ### Entries -/

/-- One entry, a quoted key, a colon and a quoted replacement, and the text behind it. -/
def entry (size : Nat) (rules : RuleSet) (text : Word) : Outcome (RuleSet × Word) := do
  let (key, rest) ← quoted size text
  let symbol ← RuleSet.symbolOfKey key
  let rest ← mark size ':' rest
  let (replacement, rest) ← quoted size rest
  let rules ← rules.add symbol replacement
  .ok (rules, rest)

theorem entry_length {size : Nat} {rules rules' : RuleSet} {text rest : Word}
    (h : entry size rules text = .ok (rules', rest)) : rest.length < text.length := by
  simp only [entry, bind, Except.bind] at h
  split at h
  · cases h
  · rename_i p hq
    split at h
    · cases h
    · split at h
      · cases h
      · rename_i r hm
        split at h
        · cases h
        · rename_i p' hq'
          split at h
          · cases h
          · cases h
            have := quoted_length hq
            have := mark_length hm
            have := quoted_length hq'
            omega

/-- The entries from `text` on, up to the closing brace, and the text behind it. -/
def entriesFrom (size : Nat) (rules : RuleSet) (text : Word) : Outcome (RuleSet × Word) :=
  match _h : entry size rules text with
  | .error fault => .error fault
  | .ok (rules, after) =>
    match _h' : Text.trimLeft after with
    | [] => stuck size (.expectedSeparator none) []
    | c :: rest =>
      if c = ',' then
        match Text.trimLeft rest with
        | '}' :: rest => .ok (rules, rest)
        | _ => entriesFrom size rules rest
      else if c = '}' then .ok (rules, rest)
      else stuck size (.expectedSeparator (some c)) rest
termination_by text.length
decreasing_by
  have h₁ := entry_length _h
  have h₂ := trimLeft_length after
  simp only [_h', List.length_cons] at h₂
  omega

/-- Reads mapping notation; the text must be trimmed. -/
def parse (text : Word) : Outcome RuleSet := do
  let size := text.length
  let rest ← mark size '{' text
  let (rules, rest) ←
    match Text.trimLeft rest with
    | '}' :: rest => .ok (.empty, rest)
    | _ => entriesFrom size .empty rest
  match Text.trimLeft rest with
  | [] => .ok rules
  | c :: rest => stuck size (.trailing c) (c :: rest)

end Camouflage.Mapping
