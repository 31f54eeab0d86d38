/-
Camouflage/Proofs/Grammar/MappingGrammar.lean

The grammar of mapping notation, and what its reader takes for one token.

The grammar (`Literal`) is written down without the reader: what a text is made
of, from quoted strings up to the whole, together with the rules it lists.  It
allows white space between any two tokens and a comma behind the last entry,
and it says nothing of where a reader would look for either.

Each step of the reader takes something off the front of a text and leaves the
rest.  So a step is described by what it took: `quoted_eq_ok_iff` and
`entry_eq_ok_iff` say that a step succeeds exactly if the text begins with white
space and then something the grammar derives, and that it leaves what follows.
That is enough to go both ways, from a reading to a derivation and back.
-/
import Camouflage.Grammar.Mapping
import Camouflage.Proofs.Grammar.Adding
import Camouflage.Proofs.Text.Trim

namespace Camouflage.Mapping

open Text

/-! ### The grammar -/

/-- White space, possibly none. -/
def Spaces (w : Word) : Prop := ∀ c ∈ w, isBlank c

/-- Between quotes the first word spells the second: a backslash stands for the character behind
it, and any other character, except the quote itself, stands for itself. -/
inductive Spells (quote : Char) : Word → Word → Prop
  | nil : Spells quote [] []
  | escaped (c : Char) {body value : Word} :
      Spells quote body value → Spells quote ('\\' :: c :: body) (c :: value)
  | plain {c : Char} {body value : Word} :
      c ≠ '\\' → c ≠ quote → Spells quote body value → Spells quote (c :: body) (c :: value)

/-- The two quotes. -/
def IsQuote (c : Char) : Prop := c = '\x27' ∨ c = '\x22'

/-- A quoted string and what it spells; it ends with the quote it begins with. -/
inductive Quoted : Word → Word → Prop
  | mk {quote : Char} {body value : Word} :
      IsQuote quote → Spells quote body value → Quoted (quote :: (body ++ [quote])) value

/-- An entry and its rule: a key that spells one symbol, a colon, and a replacement. -/
inductive Entry : Word → Char × Word → Prop
  | mk {key left right value replacement : Word} {symbol : Char} :
      Quoted key [symbol] → Spaces left → Spaces right → Quoted value replacement →
      Entry (key ++ (left ++ ':' :: (right ++ value))) (symbol, replacement)

/-- One or more entries with commas between them, and their rules in order. -/
inductive Entries : Word → List (Char × Word) → Prop
  | last {word : Word} {rule : Char × Word} : Entry word rule → Entries word [rule]
  | cons {word left right more : Word} {rule : Char × Word} {rules : List (Char × Word)} :
      Entry word rule → Spaces left → Spaces right → Entries more rules →
      Entries (word ++ (left ++ ',' :: (right ++ more))) (rule :: rules)

/-- What stands behind the last entry: a closing brace, after a comma or not. -/
inductive Closing : Word → Prop
  | brace {left : Word} : Spaces left → Closing (left ++ ['\x7d'])
  | comma {left right : Word} :
      Spaces left → Spaces right → Closing (left ++ ',' :: (right ++ ['\x7d']))

/-- A text in mapping notation, and the rules it lists. -/
inductive Literal : Word → List (Char × Word) → Prop
  | empty {left : Word} : Spaces left → Literal ('\x7b' :: (left ++ ['\x7d'])) []
  | full {left word tail : Word} {rules : List (Char × Word)} :
      Spaces left → Entries word rules → Closing tail →
      Literal ('\x7b' :: (left ++ (word ++ tail))) rules

/-! ### White space -/

theorem spaces_nil : Spaces [] := fun _ hc => absurd hc List.not_mem_nil

/-- A text is white space and then what is left of it when that is taken off. -/
theorem exists_spaces (text : Word) : ∃ left, Spaces left ∧ text = left ++ trimLeft text := by
  refine ⟨text.takeWhile isBlank, ?_, (List.takeWhile_append_dropWhile).symm⟩
  intro c hc
  exact List.mem_takeWhile_imp hc

theorem trimLeft_append {left : Word} (h : Spaces left) (text : Word) :
    trimLeft (left ++ text) = trimLeft text := by
  induction left with
  | nil => rfl
  | cons c left ih =>
    obtain ⟨hc, hleft⟩ := List.forall_mem_cons.1 h
    rw [← ih hleft, List.cons_append, trimLeft, List.dropWhile_cons_of_pos hc]
    rfl

theorem trimLeft_cons_of_not_isBlank {c : Char} (hc : isBlank c = false) (text : Word) :
    trimLeft (c :: text) = c :: text := by
  refine trimLeft_eq_self fun d hd => ?_
  cases hd
  exact hc

/-- What is left begins with `c` exactly if `c` is the first character behind white space. -/
theorem trimLeft_eq_cons_iff {c : Char} (hc : isBlank c = false) {text rest : Word} :
    trimLeft text = c :: rest ↔ ∃ left, Spaces left ∧ text = left ++ c :: rest := by
  constructor
  · intro h
    obtain ⟨left, hleft, htext⟩ := exists_spaces text
    exact ⟨left, hleft, h ▸ htext⟩
  · rintro ⟨left, hleft, rfl⟩
    rw [trimLeft_append hleft, trimLeft_cons_of_not_isBlank hc]

theorem trimLeft_eq_nil_iff {text : Word} : trimLeft text = [] ↔ Spaces text :=
  List.dropWhile_eq_nil_iff

theorem IsQuote.not_isBlank {c : Char} (h : IsQuote c) : isBlank c = false := by
  rcases h with rfl | rfl <;> decide

theorem IsQuote.ne_backslash {c : Char} (h : IsQuote c) : c ≠ '\\' := by
  rcases h with rfl | rfl <;> decide

/-! ### Tokens -/

theorem mark_eq_ok_iff {size : Nat} {wanted : Char} (hwanted : isBlank wanted = false)
    {text rest : Word} :
    mark size wanted text = .ok rest ↔ ∃ left, Spaces left ∧ text = left ++ wanted :: rest := by
  rw [← trimLeft_eq_cons_iff hwanted, mark]
  split
  · rename_i hnil
    simp [stuck, hnil]
  · rename_i c found hfound
    rw [hfound]
    split
    · rename_i heq
      subst heq
      simp
    · rename_i hne
      simp [stuck, hne]

/-- The reader of a quoted string stops at the first quote that no backslash stands before. -/
theorem content_eq_ok_iff {size : Nat} {quote : Char} (hquote : quote ≠ '\\')
    {text value rest : Word} :
    content size quote text = .ok (value, rest) ↔
      ∃ body, Spells quote body value ∧ text = body ++ quote :: rest := by
  constructor
  · intro h
    fun_induction content size quote text generalizing value rest with
    | case1 => cases h
    | case2 => cases h
    | case3 c text ih =>
      obtain ⟨⟨value', rest'⟩, hread, h⟩ := Outcome.bind_eq_ok_iff.1 h
      cases h
      obtain ⟨body, hbody, rfl⟩ := ih hread
      exact ⟨'\\' :: c :: body, .escaped c hbody, rfl⟩
    | case4 text =>
      cases h
      exact ⟨[], .nil, rfl⟩
    | case5 c text hlast hescape hne ih =>
      obtain ⟨⟨value', rest'⟩, hread, h⟩ := Outcome.bind_eq_ok_iff.1 h
      cases h
      obtain ⟨body, hbody, rfl⟩ := ih hread
      -- a backslash here would have taken the character behind it
      have hc : c ≠ '\\' := by
        intro heq
        cases body with
        | nil => exact hescape _ _ heq rfl
        | cons d body => exact hescape _ _ heq rfl
      exact ⟨c :: body, .plain hc hne hbody, rfl⟩
  · rintro ⟨body, hbody, rfl⟩
    induction hbody with
    | nil =>
      rw [List.nil_append, content, if_pos rfl]
      · exact fun heq => absurd heq hquote
      · exact fun c rest heq => absurd heq hquote
    | escaped c _ ih =>
      exact Outcome.bind_eq_ok_iff.2 ⟨_, ih, rfl⟩
    | plain hc hne _ ih =>
      rw [List.cons_append, content, if_neg hne]
      · exact Outcome.bind_eq_ok_iff.2 ⟨_, ih, rfl⟩
      · exact fun heq => absurd heq hc
      · exact fun c rest heq => absurd heq hc

theorem quoted_eq_ok_iff {size : Nat} {text value rest : Word} :
    quoted size text = .ok (value, rest) ↔
      ∃ left token, Spaces left ∧ Quoted token value ∧ text = left ++ (token ++ rest) := by
  constructor
  · intro h
    rw [quoted] at h
    split at h
    · cases h
    · rename_i c text' htext
      split at h
      · rename_i hc
        have hc : IsQuote c := by simpa [IsQuote] using hc
        obtain ⟨left, hleft, rfl⟩ := (trimLeft_eq_cons_iff hc.not_isBlank).1 htext
        obtain ⟨body, hbody, rfl⟩ := (content_eq_ok_iff hc.ne_backslash).1 h
        refine ⟨left, c :: (body ++ [c]), hleft, .mk hc hbody, ?_⟩
        simp
      · cases h
  · rintro ⟨left, token, hleft, htoken, rfl⟩
    cases htoken with
    | @mk quote body _ hquote hbody =>
      have htrim : trimLeft (left ++ (quote :: (body ++ [quote]) ++ rest))
          = quote :: (body ++ quote :: rest) := by
        rw [trimLeft_append hleft, List.cons_append,
          trimLeft_cons_of_not_isBlank hquote.not_isBlank]
        simp
      have hread : content size quote (body ++ quote :: rest) = .ok (value, rest) :=
        (content_eq_ok_iff hquote.ne_backslash).2 ⟨body, hbody, rfl⟩
      rw [quoted, htrim]
      rcases hquote with rfl | rfl
      · exact hread
      · exact hread

/-! ### One entry -/

/-- An entry is read exactly if its rule can be added. -/
theorem entry_eq_ok_iff {size : Nat} {rules rules' : RuleSet} {text rest : Word} :
    entry size rules text = .ok (rules', rest) ↔
      ∃ left word rule, Spaces left ∧ Entry word rule ∧ text = left ++ (word ++ rest) ∧
        rules.add rule.1 rule.2 = .ok rules' := by
  have hcolon : isBlank ':' = false := by decide
  constructor
  · intro h
    obtain ⟨⟨key, text₁⟩, hkey, h⟩ := Outcome.bind_eq_ok_iff.1 h
    obtain ⟨symbol, hsymbol, h⟩ := Outcome.bind_eq_ok_iff.1 h
    obtain ⟨text₂, hmark, h⟩ := Outcome.bind_eq_ok_iff.1 h
    obtain ⟨⟨replacement, text₃⟩, hvalue, h⟩ := Outcome.bind_eq_ok_iff.1 h
    obtain ⟨middle, hadd, h⟩ := Outcome.bind_eq_ok_iff.1 h
    cases h
    obtain rfl := RuleSet.symbolOfKey_eq_ok_iff.1 hsymbol
    obtain ⟨left, keyToken, hleft, hkeyToken, rfl⟩ := quoted_eq_ok_iff.1 hkey
    obtain ⟨before, hbefore, rfl⟩ := (mark_eq_ok_iff hcolon).1 hmark
    obtain ⟨behind, valueToken, hbehind, hvalueToken, rfl⟩ := quoted_eq_ok_iff.1 hvalue
    refine ⟨left, _, (symbol, replacement), hleft, .mk hkeyToken hbefore hbehind hvalueToken, ?_,
      hadd⟩
    simp
  · rintro ⟨left, word, rule, hleft, hword, rfl, hadd⟩
    cases hword with
    | @mk keyToken before behind valueToken replacement symbol hkey hbefore hbehind hvalue =>
      have htext : left ++ (keyToken ++ (before ++ ':' :: (behind ++ valueToken)) ++ rest)
          = left ++ (keyToken ++ (before ++ ':' :: (behind ++ (valueToken ++ rest)))) := by simp
      rw [htext]
      refine Outcome.bind_eq_ok_iff.2 ⟨_, quoted_eq_ok_iff.2 ⟨_, _, hleft, hkey, rfl⟩, ?_⟩
      refine Outcome.bind_eq_ok_iff.2 ⟨symbol, rfl, ?_⟩
      refine Outcome.bind_eq_ok_iff.2 ⟨_, (mark_eq_ok_iff hcolon).2 ⟨_, hbefore, rfl⟩, ?_⟩
      refine Outcome.bind_eq_ok_iff.2 ⟨_, quoted_eq_ok_iff.2 ⟨_, _, hbehind, hvalue, rfl⟩, ?_⟩
      exact Outcome.bind_eq_ok_iff.2 ⟨rules', hadd, rfl⟩

end Camouflage.Mapping
