/-
Camouflage/Proofs/Grammar/MappingNotation.lean

What mapping notation says.  `Mapping.parse_eq_ok_iff` describes the reader of a
literal without its loop: a text that begins with a brace is read exactly if the
grammar derives it and no symbol has two rules, and the rule set then holds the
rules listed and nothing else.

The loop over entries reads an entry and then does one of two things
(`entriesFrom_eq_ok`): it stops behind a closing brace, or it goes on behind a
comma.  A comma may also come before the brace, so behind a comma the reader
looks ahead once; it is not misled, as no entry begins with a brace
(`Entries.exists_cons`).
-/
import Camouflage.Grammar.Notation
import Camouflage.Proofs.Grammar.MappingGrammar

namespace Camouflage

namespace Mapping

open Text

theorem isBlank_brace : isBlank '\x7d' = false := by decide

theorem isBlank_comma : isBlank ',' = false := by decide

/-! ### One round of the loop -/

/-- What the loop does behind an entry. -/
theorem entriesFrom_of_entry {size : Nat} {rules middle : RuleSet} {text after : Word}
    (hentry : entry size rules text = .ok (middle, after)) :
    entriesFrom size rules text =
      match trimLeft after with
      | [] => stuck size (.expectedSeparator none) []
      | c :: rest =>
        if c = ',' then
          match trimLeft rest with
          | '\x7d' :: rest => .ok (middle, rest)
          | _ => entriesFrom size middle rest
        else if c = '\x7d' then .ok (middle, rest)
        else stuck size (.expectedSeparator (some c)) rest := by
  rw [entriesFrom]
  split
  · rename_i fault hfault
    rw [hentry] at hfault
    cases hfault
  · rename_i middle' after' hentry'
    rw [hentry] at hentry'
    cases hentry'
    split
    · rename_i hnil
      rw [hnil]
    · rename_i c rest hcons
      exact hcons ▸ rfl

/-- Behind an entry and its closing brace the loop is over. -/
theorem entriesFrom_of_closing {size : Nat} {rules middle : RuleSet} {text tail rest : Word}
    (hentry : entry size rules text = .ok (middle, tail ++ rest)) (htail : Closing tail) :
    entriesFrom size rules text = .ok (middle, rest) := by
  rw [entriesFrom_of_entry hentry]
  cases htail with
  | @brace left hleft =>
    have htrim : trimLeft (left ++ ['\x7d'] ++ rest) = '\x7d' :: rest :=
      (trimLeft_eq_cons_iff isBlank_brace).2 ⟨left, hleft, by simp⟩
    rw [htrim]
    rfl
  | @comma left right hleft hright =>
    have htrim : trimLeft (left ++ ',' :: (right ++ ['\x7d']) ++ rest)
        = ',' :: (right ++ '\x7d' :: rest) :=
      (trimLeft_eq_cons_iff isBlank_comma).2 ⟨left, hleft, by simp⟩
    have htrim' : trimLeft (right ++ '\x7d' :: rest) = '\x7d' :: rest :=
      (trimLeft_eq_cons_iff isBlank_brace).2 ⟨right, hright, rfl⟩
    rw [htrim]
    dsimp only
    rw [if_pos rfl, htrim']
    rfl

/-- Behind an entry and a comma that no brace follows, the loop goes on. -/
theorem entriesFrom_of_comma {size : Nat} {rules middle : RuleSet} {text left more : Word}
    (hentry : entry size rules text = .ok (middle, left ++ ',' :: more)) (hleft : Spaces left)
    (hmore : (trimLeft more).head? ≠ some '\x7d') :
    entriesFrom size rules text = entriesFrom size middle more := by
  have htrim : trimLeft (left ++ ',' :: more) = ',' :: more :=
    (trimLeft_eq_cons_iff isBlank_comma).2 ⟨left, hleft, rfl⟩
  rw [entriesFrom_of_entry hentry, htrim]
  dsimp only
  rw [if_pos rfl]
  split
  · rename_i rest hbrace
    rw [hbrace] at hmore
    exact absurd rfl hmore
  · rfl

/-- A loop that comes to an end has read an entry, and has stopped behind its closing brace or gone
on behind its comma. -/
theorem entriesFrom_eq_ok {size : Nat} {rules rules' : RuleSet} {text rest : Word}
    (h : entriesFrom size rules text = .ok (rules', rest)) :
    ∃ middle after, entry size rules text = .ok (middle, after) ∧
      ((∃ tail, Closing tail ∧ after = tail ++ rest ∧ rules' = middle) ∨
        ∃ left more, Spaces left ∧ after = left ++ ',' :: more ∧
          entriesFrom size middle more = .ok (rules', rest)) := by
  cases hentry : entry size rules text with
  | error fault =>
    rw [entriesFrom] at h
    split at h
    · cases h
    · rename_i hentry'
      rw [hentry] at hentry'
      cases hentry'
  | ok p =>
    obtain ⟨middle, after⟩ := p
    refine ⟨middle, after, rfl, ?_⟩
    rw [entriesFrom_of_entry hentry] at h
    split at h
    · cases h
    · rename_i c behind hbehind
      split at h
      · rename_i hcomma
        subst hcomma
        obtain ⟨left, hleft, rfl⟩ := (trimLeft_eq_cons_iff isBlank_comma).1 hbehind
        split at h
        · rename_i behind' hbrace
          cases h
          obtain ⟨right, hright, rfl⟩ := (trimLeft_eq_cons_iff isBlank_brace).1 hbrace
          refine Or.inl ⟨left ++ ',' :: (right ++ ['\x7d']), .comma hleft hright, ?_, rfl⟩
          simp
        · exact Or.inr ⟨left, behind, hleft, rfl, h⟩
      · split at h
        · rename_i hbrace
          subst hbrace
          cases h
          obtain ⟨left, hleft, rfl⟩ := (trimLeft_eq_cons_iff isBlank_brace).1 hbehind
          refine Or.inl ⟨left ++ ['\x7d'], .brace hleft, ?_, rfl⟩
          simp
        · cases h

/-! ### The loop -/

/-- Entries begin with a quote. -/
theorem Entries.exists_cons {word : Word} {rules : List (Char × Word)} (h : Entries word rules) :
    ∃ quote more, IsQuote quote ∧ word = quote :: more := by
  have hentry : ∀ {word : Word} {rule : Char × Word}, Entry word rule →
      ∃ quote more, IsQuote quote ∧ word = quote :: more := by
    intro word rule h
    obtain ⟨⟨hquote, -⟩, -, -, -⟩ := h
    exact ⟨_, _, hquote, rfl⟩
  cases h with
  | last h => exact hentry h
  | cons h _ _ _ =>
    obtain ⟨quote, more, hquote, rfl⟩ := hentry h
    exact ⟨quote, _, hquote, rfl⟩

/-- What the loop gets through is entries with what closes them. -/
theorem exists_entries_of_entriesFrom {size : Nat} {rules rules' : RuleSet} {text rest : Word}
    (h : entriesFrom size rules text = .ok (rules', rest)) :
    ∃ left word tail l, Spaces left ∧ Entries word l ∧ Closing tail ∧
      text = left ++ (word ++ (tail ++ rest)) ∧ rules.Adds l rules' := by
  obtain ⟨middle, after, hentry, hafter⟩ := entriesFrom_eq_ok h
  have hshorter := entry_length hentry
  obtain ⟨left, word, rule, hleft, hword, htext, hadd⟩ := entry_eq_ok_iff.1 hentry
  rcases hafter with ⟨tail, htail, rfl, rfl⟩ | ⟨before, more, hbefore, rfl, hmore⟩
  · exact ⟨left, word, tail, [rule], hleft, .last hword, htail, htext, rules', hadd, rfl⟩
  · have hless : more.length < text.length := by
      rw [List.length_append, List.length_cons] at hshorter
      omega
    obtain ⟨behind, word', tail, l, hbehind, hword', htail, hmore, hadds⟩ :=
      exists_entries_of_entriesFrom hmore
    refine ⟨left, _, tail, rule :: l, hleft, .cons hword hbefore hbehind hword', htail, ?_,
      middle, hadd, hadds⟩
    rw [htext, hmore]
    simp
termination_by text.length
decreasing_by exact hless

/-- The loop gets through all entries whose rules can be added. -/
theorem entriesFrom_of_entries {size : Nat} {word : Word} {l : List (Char × Word)}
    (h : Entries word l) {left tail : Word} (hleft : Spaces left) (htail : Closing tail)
    {rules rules' : RuleSet} (hadds : rules.Adds l rules') (rest : Word) :
    entriesFrom size rules (left ++ (word ++ (tail ++ rest))) = .ok (rules', rest) := by
  induction h generalizing left rules with
  | @last word rule hword =>
    obtain ⟨middle, hadd, rfl⟩ := hadds
    exact entriesFrom_of_closing (entry_eq_ok_iff.2 ⟨left, word, rule, hleft, hword, rfl, hadd⟩)
      htail
  | @cons word before behind more rule l hword hbefore hbehind hmore ih =>
    obtain ⟨middle, hadd, hadds⟩ := hadds
    have htext : left ++ (word ++ (before ++ ',' :: (behind ++ more)) ++ (tail ++ rest))
        = left ++ (word ++ (before ++ ',' :: (behind ++ (more ++ (tail ++ rest))))) := by simp
    have hentry : entry size rules
        (left ++ (word ++ (before ++ ',' :: (behind ++ (more ++ (tail ++ rest))))))
          = .ok (middle, before ++ ',' :: (behind ++ (more ++ (tail ++ rest)))) :=
      entry_eq_ok_iff.2 ⟨left, word, rule, hleft, hword, rfl, hadd⟩
    -- the next entry begins with a quote, so the look-ahead finds no brace
    have hnext : (trimLeft (behind ++ (more ++ (tail ++ rest)))).head? ≠ some '\x7d' := by
      obtain ⟨quote, more', hquote, rfl⟩ := hmore.exists_cons
      rw [trimLeft_append hbehind, List.cons_append,
        trimLeft_cons_of_not_isBlank hquote.not_isBlank]
      rcases hquote with rfl | rfl <;> simp
    rw [htext, entriesFrom_of_comma hentry hbefore hnext]
    exact ih hbehind hadds

/-! ### The whole text -/

/-- Reads what stands behind the opening brace, up to the closing one. -/
def behindBrace (size : Nat) (text : Word) : Outcome (RuleSet × Word) :=
  match trimLeft text with
  | '\x7d' :: rest => .ok (.empty, rest)
  | _ => entriesFrom size .empty text

/-- The reader takes the text in three parts: the opening brace, the entries up to the closing
brace, and the end. -/
theorem parse_eq_bind (text : Word) :
    Mapping.parse text = mark text.length '\x7b' text >>= fun rest =>
      behindBrace text.length rest >>= fun p =>
        match trimLeft p.2 with
        | [] => .ok p.1
        | c :: rest => stuck text.length (.trailing c) (c :: rest) := by
  rw [Mapping.parse]
  refine congrArg _ (funext fun rest => ?_)
  split
  · rename_i rest' hbrace
    rw [behindBrace, hbrace]
    rfl
  · rename_i hbrace
    rw [behindBrace]
    split
    · rename_i rest' hbrace'
      exact absurd hbrace' (hbrace rest')
    · rfl

theorem behindBrace_eq_ok_iff {size : Nat} {text rest : Word} {rules : RuleSet} :
    behindBrace size text = .ok (rules, rest) ↔
      ∃ word l, Literal ('\x7b' :: word) l ∧ text = word ++ rest ∧ RuleSet.Adds .empty l rules := by
  constructor
  · intro h
    rw [behindBrace] at h
    split at h
    · rename_i rest' hbrace
      cases h
      obtain ⟨left, hleft, rfl⟩ := (trimLeft_eq_cons_iff isBlank_brace).1 hbrace
      exact ⟨left ++ ['\x7d'], [], .empty hleft, by simp, rfl⟩
    · obtain ⟨left, word, tail, l, hleft, hword, htail, rfl, hadds⟩ :=
        exists_entries_of_entriesFrom h
      exact ⟨left ++ (word ++ tail), l, .full hleft hword htail, by simp, hadds⟩
  · rintro ⟨word, l, hliteral, rfl, hadds⟩
    cases hliteral with
    | @empty left hleft =>
      have htrim : trimLeft (left ++ ['\x7d'] ++ rest) = '\x7d' :: rest :=
        (trimLeft_eq_cons_iff isBlank_brace).2 ⟨left, hleft, by simp⟩
      have hnone : rules = .empty := hadds
      rw [behindBrace, htrim, hnone]
      rfl
    | @full left word tail _ hleft hword htail =>
      have htext : left ++ (word ++ tail) ++ rest = left ++ (word ++ (tail ++ rest)) := by simp
      rw [htext, behindBrace]
      split
      · -- entries begin with a quote, not with a brace
        rename_i rest' hbrace
        obtain ⟨quote, more, hquote, rfl⟩ := hword.exists_cons
        rw [trimLeft_append hleft, List.cons_append,
          trimLeft_cons_of_not_isBlank hquote.not_isBlank] at hbrace
        obtain rfl : quote = '\x7d' := (List.cons.inj hbrace).1
        rcases hquote with hquote | hquote <;> cases hquote
      · exact entriesFrom_of_entries hword hleft htail hadds rest

theorem Literal.exists_cons {word : Word} {l : List (Char × Word)} (h : Literal word l) :
    ∃ more, word = '\x7b' :: more := by
  cases h with
  | empty _ => exact ⟨_, rfl⟩
  | full _ _ _ => exact ⟨_, rfl⟩

/-- A text is read exactly if, white space at its ends apart, it is a literal whose rules can all be
added. -/
theorem parse_eq_ok_iff {text : Word} {rules : RuleSet} :
    Mapping.parse text = .ok rules ↔ ∃ left word right l, Spaces left ∧ Literal word l ∧
      Spaces right ∧ text = left ++ (word ++ right) ∧ RuleSet.Adds .empty l rules := by
  have hopen : isBlank '\x7b' = false := by decide
  rw [parse_eq_bind]
  constructor
  · intro h
    obtain ⟨text', hmark, h⟩ := Outcome.bind_eq_ok_iff.1 h
    obtain ⟨⟨rules', rest⟩, hbody, h⟩ := Outcome.bind_eq_ok_iff.1 h
    obtain ⟨left, hleft, rfl⟩ := (mark_eq_ok_iff hopen).1 hmark
    obtain ⟨word, l, hword, rfl, hadds⟩ := behindBrace_eq_ok_iff.1 hbody
    dsimp only at h
    split at h
    · rename_i hnil
      cases h
      exact ⟨left, _, rest, l, hleft, hword, trimLeft_eq_nil_iff.1 hnil, rfl, hadds⟩
    · cases h
  · rintro ⟨left, word, right, l, hleft, hword, hright, rfl, hadds⟩
    obtain ⟨more, rfl⟩ := hword.exists_cons
    refine Outcome.bind_eq_ok_iff.2 ⟨more ++ right, (mark_eq_ok_iff hopen).2 ⟨left, hleft, rfl⟩, ?_⟩
    refine Outcome.bind_eq_ok_iff.2 ⟨(rules, right), ?_, ?_⟩
    · exact behindBrace_eq_ok_iff.2 ⟨more, l, hword, rfl, hadds⟩
    · dsimp only
      rw [trimLeft_eq_nil_iff.2 hright]

end Mapping

end Camouflage
