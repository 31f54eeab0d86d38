/-
Camouflage/Proofs/Grammar/WrittenForm.lean

Which rule sets are read back from their written form.  The written form
escapes nothing, so a rule comes back only if the reader finds its two ends and
its separator where they were written: `RuleSet.Writable` says when that is.

This is almost all there is to it (`RuleSet.parse_text_eq_ok_iff`).  Entries are
read one by one and the reader never looks past the end of one, so the rules of
a set do not get in each other's way.  The exception is the smallest symbol: it
comes first in the written form, and if it is an opening brace the text is taken
for the other notation.

That no rule beyond these comes back needs no look at the written form at all:
arrow notation cannot express a rule that is not writable, whatever the text
(`RuleSet.writable_of_parse`).
-/
import Camouflage.Proofs.Grammar.ArrowNotation

namespace Camouflage.RuleSet

open Text Arrow

/-- Rules that come back when they are written down and read. -/
structure Writable (rule : Char × Word) : Prop where
  key_not_blank : isBlank rule.1 = false
  key_ne_semicolon : rule.1 ≠ ';'
  key_ne_equals : rule.1 ≠ '='
  not_mem_semicolon : ';' ∉ rule.2
  not_mem_newline : '\n' ∉ rule.2
  trimmed : Trimmed rule.2

theorem isEntryEnd_eq_false_iff {c : Char} : isEntryEnd c = false ↔ c ≠ ';' ∧ c ≠ '\n' := by
  simp [isEntryEnd]

theorem Writable.key_not_end {rule : Char × Word} (h : Writable rule) :
    isEntryEnd rule.1 = false := by
  refine isEntryEnd_eq_false_iff.2 ⟨h.key_ne_semicolon, fun heq => ?_⟩
  have hblank := h.key_not_blank
  rw [heq] at hblank
  exact absurd hblank (by decide)

/-! ### What arrow notation can express -/

/-- A rule that some entry reads as is writable. -/
theorem writable_of_readsAs {entry : Word} {rule : Char × Word}
    (hend : ∀ c ∈ entry, isEntryEnd c = false) (h : ReadsAs entry rule) : Writable rule := by
  obtain ⟨key, rest, hsplit, hkey, hrest⟩ := h
  obtain ⟨hkeysub, hrestsub⟩ := splitEntry_subset hsplit
  have hkeymem : rule.1 ∈ key := mem_of_mem_trim (hkey ▸ List.mem_singleton_self _)
  have hkeyend := isEntryEnd_eq_false_iff.1 (hend rule.1 (hkeysub hkeymem))
  have hnotend : ∀ c ∈ rule.2, c ≠ ';' ∧ c ≠ '\n' := by
    intro c hc
    have hc : c ∈ rest := mem_of_mem_trim (hrest ▸ hc)
    exact isEntryEnd_eq_false_iff.1 (hend c (hrestsub hc))
  refine ⟨?_, hkeyend.1, ?_, fun hmem => (hnotend _ hmem).1 rfl, fun hmem => (hnotend _ hmem).2 rfl,
    hrest ▸ trimmed_trim rest⟩
  · exact (trimmed_trim key).head rule.1 (by rw [hkey]; rfl)
  · -- what stands before the first separator holds no equals sign
    intro heq
    exact (splitEntry_eq_some hsplit).1 (heq ▸ hkeymem)

/-- Whatever is read in arrow notation is writable, rule by rule. -/
theorem writable_of_parse {text : Word} {rules : RuleSet} (h : Arrow.parse text = .ok rules) :
    ∀ rule ∈ rules.entries, Writable rule := by
  intro rule hrule
  obtain ⟨entry, hentry, hreads⟩ := exists_mem_entries h hrule
  exact writable_of_readsAs (mem_entries hentry).2.1 hreads

/-! ### The entries of the written form -/

theorem entryWord_not_end {rule : Char × Word} (h : Writable rule) :
    ∀ c ∈ entryWord rule, isEntryEnd c = false := by
  have hreplacement : ∀ c ∈ rule.2, isEntryEnd c = false := fun c hc =>
    isEntryEnd_eq_false_iff.2
      ⟨fun heq => h.not_mem_semicolon (heq ▸ hc), fun heq => h.not_mem_newline (heq ▸ hc)⟩
  have harrow : ∀ c ∈ [' ', '-', '>', ' '], isEntryEnd c = false := by simp [isEntryEnd]
  exact List.forall_mem_cons.2 ⟨h.key_not_end, List.forall_mem_append.2 ⟨harrow, hreplacement⟩⟩

/-- An entry can be trimmed only behind its arrow. -/
theorem trim_entryWord {rule : Char × Word} (h : Writable rule) :
    trim (entryWord rule) = rule.1 :: ' ' :: '-' :: '>' :: trimRight (' ' :: rule.2) := by
  have htip : isBlank '>' = false := by decide
  rw [entryWord, trim_cons_of_not_isBlank h.key_not_blank]
  exact congrArg (rule.1 :: ·) (trimRight_append_cons htip [' ', '-'] (' ' :: rule.2))

/-- The arrow is the first separator, as the one blank before it is no part of one. -/
theorem splitEntry_arrow {c : Char} (hc : c ≠ '=') (rest : Word) :
    splitEntry (c :: ' ' :: '-' :: '>' :: rest) = some ([c, ' '], rest) := by
  have hspace : splitEntry (' ' :: '-' :: '>' :: rest) = some ([' '], rest) := rfl
  rw [splitEntry, hspace, Option.map_some]
  · intro rest' hdash heq
    cases heq
  · exact hc

/-- A writable rule is what its entry reads as. -/
theorem readsAs_entryWord {rule : Char × Word} (h : Writable rule) :
    ReadsAs (trim (entryWord rule)) rule := by
  have hblank : isBlank ' ' := by decide
  have hkey : ∀ c ∈ some rule.1, isBlank c = false := by
    intro c hc
    cases hc
    exact h.key_not_blank
  refine ⟨[rule.1, ' '], trimRight (' ' :: rule.2), ?_, ?_, ?_⟩
  · rw [trim_entryWord h]
    exact splitEntry_arrow h.key_ne_equals _
  · rw [show [rule.1, ' '] = [rule.1] ++ [' '] from rfl, trim_concat hblank]
    exact trim_eq_self ⟨hkey, hkey⟩
  · -- the blank written behind the arrow is trimmed off again
    rw [trim_trimRight, trim_cons hblank, trim_eq_self h.trimmed]

theorem entries_entryWord {rule : Char × Word} (h : Writable rule) :
    entries (entryWord rule) = [trim (entryWord rule)] := by
  rw [entries_of_not_isEntryEnd (entryWord_not_end h), trim_entryWord h]
  rfl

/-- Rules joined to one text are its entries again. -/
theorem entries_intercalate {l : List (Char × Word)} (h : ∀ rule ∈ l, Writable rule) :
    entries (List.intercalate [';', ' '] (l.map entryWord)) =
      l.map fun rule => trim (entryWord rule) := by
  induction l with
  | nil => rfl
  | cons rule rest ih =>
    have hrule := h rule List.mem_cons_self
    have hrest := ih fun rule' hmem => h rule' (List.mem_cons_of_mem _ hmem)
    cases rest with
    | nil =>
      rw [List.map_singleton, List.intercalate_singleton]
      exact entries_entryWord hrule
    | cons rule' rest =>
      -- the blank behind the semicolon falls to the next entry, where it does not count
      have hend : isEntryEnd ';' := by decide
      have hblank : isBlank ' ' := by decide
      rw [List.map_cons, List.map_cons, List.intercalate_cons_cons, ← List.map_cons,
        List.append_assoc, List.cons_append, entries_append_cons hend, List.singleton_append,
        entries_cons_blank hblank, hrest, entries_entryWord hrule]
      rfl

/-! ### The beginning of the written form -/

/-- The written form begins with the smallest symbol and its arrow. -/
theorem exists_toWord_eq {rules : RuleSet} {rule : Char × Word} {rest : List (Char × Word)}
    (h : rules.entries = rule :: rest) :
    ∃ tail, rules.toWord = rule.1 :: ' ' :: '-' :: '>' :: tail := by
  rw [toWord, h]
  cases rest with
  | nil =>
    rw [List.map_singleton, List.intercalate_singleton]
    exact ⟨' ' :: rule.2, rfl⟩
  | cons rule' rest =>
    rw [List.map_cons, List.map_cons, List.intercalate_cons_cons]
    exact ⟨_, rfl⟩

/-- Mapping notation has no place for a dash behind its opening brace. -/
theorem mapping_parse_dash (tail : Word) (rules : RuleSet) :
    Mapping.parse ('{' :: ' ' :: '-' :: tail) ≠ .ok rules := by
  intro h
  obtain ⟨rest, hmark, h⟩ := Outcome.bind_eq_ok_iff.1 h
  cases hmark
  obtain ⟨⟨rules', rest⟩, hentries, -⟩ := Outcome.bind_eq_ok_iff.1 h
  have hentries : Mapping.entriesFrom (tail.length + 3) .empty (' ' :: '-' :: tail) =
      .ok (rules', rest) := hentries
  -- the reader wants a quoted key and meets the dash
  have hquoted : Mapping.quoted (tail.length + 3) (' ' :: '-' :: tail) =
      Mapping.stuck (tail.length + 3) (.expectedQuoted (some '-')) tail := rfl
  rw [Mapping.entriesFrom] at hentries
  split at hentries
  · cases hentries
  · rename_i rules'' after hentry
    obtain ⟨p, hp, -⟩ := Outcome.bind_eq_ok_iff.1 hentry
    rw [hquoted] at hp
    cases hp

/-- A rule set whose smallest symbol is an opening brace is taken for the other notation. -/
theorem parse_toWord_of_brace {rules : RuleSet} (h : rules.keys.head? = some '{') :
    RuleSet.parse rules.toWord ≠ .ok rules := by
  cases hentries : rules.entries with
  | nil =>
    rw [Table.keys, hentries] at h
    cases h
  | cons rule rest =>
    rw [Table.keys, hentries, List.map_cons, List.head?_cons, Option.some.injEq] at h
    obtain ⟨tail, htail⟩ := exists_toWord_eq hentries
    have hbrace : isBlank '{' = false := by decide
    have hdash : isBlank '-' = false := by decide
    have htrim : trim rules.toWord = '{' :: ' ' :: '-' :: trimRight ('>' :: tail) := by
      rw [htail, h, trim_cons_of_not_isBlank hbrace]
      exact congrArg ('{' :: ·) (trimRight_append_cons hdash [' '] ('>' :: tail))
    rw [RuleSet.parse, htrim]
    exact mapping_parse_dash _ rules

/-- Any other rule set is written in arrow notation. -/
theorem parse_toWord_of_ne_brace {rules : RuleSet} (h : rules.keys.head? ≠ some '{') :
    RuleSet.parse rules.toWord = Arrow.parse rules.toWord := by
  refine parse_eq_arrow ?_
  cases hentries : rules.entries with
  | nil =>
    rw [toWord, hentries]
    decide
  | cons rule rest =>
    rw [Table.keys, hentries, List.map_cons, List.head?_cons] at h
    obtain ⟨tail, htail⟩ := exists_toWord_eq hentries
    rw [htail]
    by_cases hkey : isBlank rule.1
    · -- such a rule set is not read back, but it is no mapping either
      have hspace : isBlank ' ' := by decide
      have hdash : isBlank '-' = false := by decide
      rw [trim_cons hkey, trim_cons hspace, trim_cons_of_not_isBlank hdash]
      exact fun heq => absurd heq (by simp)
    · rw [trim_cons_of_not_isBlank (Bool.eq_false_iff.2 hkey)]
      exact h

/-! ### Reading it back -/

/-- **What is read back.**  A rule set is read back from its written form exactly if each of its
rules is writable and its smallest symbol is not an opening brace. -/
theorem parse_text_eq_ok_iff (rules : RuleSet) :
    RuleSet.parse rules.text.toList = .ok rules ↔
      (∀ rule ∈ rules.entries, Writable rule) ∧ rules.keys.head? ≠ some '{' := by
  rw [text, String.toList_ofList]
  constructor
  · intro h
    have hbrace : rules.keys.head? ≠ some '{' := fun hbrace => parse_toWord_of_brace hbrace h
    rw [parse_toWord_of_ne_brace hbrace] at h
    exact ⟨writable_of_parse h, hbrace⟩
  · rintro ⟨hwritable, hbrace⟩
    rw [parse_toWord_of_ne_brace hbrace, Arrow.parse_eq_ok_iff]
    refine ⟨rules.entries, ?_, rules.nodup_keys, (Table.ofList_entries rules).symm⟩
    rw [toWord, entries_intercalate hwritable, List.forall₂_map_left_iff, List.forall₂_same]
    exact fun rule hrule => readsAs_entryWord (hwritable rule hrule)

end Camouflage.RuleSet
