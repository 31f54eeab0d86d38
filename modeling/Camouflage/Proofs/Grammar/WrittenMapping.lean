/-
Camouflage/Proofs/Grammar/WrittenMapping.lean

Rule sets in mapping notation.  The main statement says which texts that begin
with a brace are read, and as what: those that the grammar derives and in which
no symbol has two rules, as the rules they list.

Unlike the arrow notation this one escapes, so every rule set can be written in
it (`RuleSet.mappingWord`): whatever its symbols and replacements are, quotes,
backslashes and separators among them, it is read back from what is written.
-/
import Camouflage.Grammar.Notation
import Camouflage.Proofs.Grammar.MappingNotation

namespace Camouflage

open Text

/-! ### Trimmed literals -/

namespace Mapping

/-- A literal ends with its closing brace. -/
theorem Literal.getLast?_eq {word : Word} {l : List (Char × Word)} (h : Literal word l) :
    word.getLast? = some '\x7d' := by
  have hclosing : ∀ {tail : Word}, Closing tail → tail.getLast? = some '\x7d' := by
    intro tail htail
    cases htail with
    | brace _ => simp
    | comma _ _ =>
      rw [← List.cons_append, ← List.append_assoc, List.getLast?_concat]
  cases h with
  | empty _ => rw [← List.cons_append, List.getLast?_concat]
  | full _ _ htail =>
    rw [← List.cons_append, ← List.append_assoc, List.getLast?_append, hclosing htail]
    rfl

theorem Literal.trimmed {word : Word} {l : List (Char × Word)} (h : Literal word l) :
    Trimmed word := by
  constructor
  · intro c hc
    obtain ⟨more, rfl⟩ := h.exists_cons
    cases hc
    decide
  · intro c hc
    rw [h.getLast?_eq] at hc
    cases hc
    decide

/-- A trimmed text has no white space at its ends to be taken off. -/
theorem parse_eq_ok_iff_of_trimmed {text : Word} (htext : Trimmed text) {rules : RuleSet} :
    Mapping.parse text = .ok rules ↔ ∃ l, Literal text l ∧ RuleSet.Adds .empty l rules := by
  rw [parse_eq_ok_iff]
  constructor
  · rintro ⟨left, word, right, l, hleft, hword, hright, rfl, hadds⟩
    have hleft' : left = [] := by
      cases left with
      | nil => rfl
      | cons c left =>
        have hblank := hleft c List.mem_cons_self
        rw [htext.head c rfl] at hblank
        cases hblank
    have hright' : right = [] := by
      by_contra hne
      have hlast := List.getLast?_eq_some_getLast hne
      have hblank := hright _ (List.getLast_mem hne)
      rw [htext.last (right.getLast hne) (by simp [List.getLast?_append, hlast])] at hblank
      cases hblank
    subst hleft' hright'
    rw [List.nil_append, List.append_nil]
    exact ⟨l, hword, hadds⟩
  · rintro ⟨l, hword, hadds⟩
    exact ⟨[], text, [], l, spaces_nil, hword, spaces_nil, by simp, hadds⟩

end Mapping

/-- A text that begins with a brace is in mapping notation. -/
theorem RuleSet.parse_eq_mapping {text : Word} (h : (trim text).head? = some '\x7b') :
    RuleSet.parse text = Mapping.parse (trim text) := by
  obtain ⟨more, hmore⟩ := List.head?_eq_some_iff.1 h
  rw [RuleSet.parse, hmore]
  rfl

namespace RuleSet

open Mapping

/-! ### Writing -/

/-- A character between single quotes. -/
def escape (c : Char) : Word := if c = '\\' ∨ c = '\x27' then ['\\', c] else [c]

/-- A word between single quotes. -/
def quotation (w : Word) : Word := '\x27' :: (w.flatMap escape ++ ['\x27'])

/-- One rule in mapping notation. -/
def mappingEntry (rule : Char × Word) : Word :=
  quotation [rule.1] ++ ':' :: ' ' :: quotation rule.2

/-- The rules in mapping notation, in symbol order. -/
def mappingWord (rules : RuleSet) : Word :=
  '\x7b' :: (List.intercalate [',', ' '] (rules.entries.map mappingEntry) ++ ['\x7d'])

theorem spells_escape (w : Word) : Spells '\x27' (w.flatMap escape) w := by
  induction w with
  | nil => exact .nil
  | cons c w ih =>
    rw [List.flatMap_cons, escape]
    split
    · exact .escaped c ih
    · rename_i hplain
      rw [not_or] at hplain
      exact .plain hplain.1 hplain.2 ih

theorem quoted_quotation (w : Word) : Quoted (quotation w) w :=
  .mk (Or.inl rfl) (spells_escape w)

theorem spaces_blank : Spaces [' '] := by
  intro c hc
  rw [List.mem_singleton.1 hc]
  decide

theorem entry_mappingEntry (rule : Char × Word) : Mapping.Entry (mappingEntry rule) rule :=
  .mk (quoted_quotation [rule.1]) spaces_nil spaces_blank (quoted_quotation rule.2)

theorem entries_intercalate_mappingEntry (rule : Char × Word) (l : List (Char × Word)) :
    Entries (List.intercalate [',', ' '] ((rule :: l).map mappingEntry)) (rule :: l) := by
  induction l generalizing rule with
  | nil =>
    rw [List.map_singleton, List.intercalate_singleton]
    exact .last (entry_mappingEntry rule)
  | cons rule' l ih =>
    have hmore := Entries.cons (entry_mappingEntry rule) spaces_nil spaces_blank (ih rule')
    rw [List.map_cons, List.map_cons, List.intercalate_cons_cons, ← List.map_cons,
      List.append_assoc]
    exact hmore

/-- What is written is a literal that lists the rules. -/
theorem literal_mappingWord (rules : RuleSet) : Literal rules.mappingWord rules.entries := by
  rw [mappingWord]
  cases rules.entries with
  | nil => exact .empty spaces_nil
  | cons rule l =>
    exact .full spaces_nil (entries_intercalate_mappingEntry rule l) (.brace spaces_nil)

/-! ### What is read -/

/-- **The literals that are read.**  A text that begins with a brace is read exactly if the grammar
derives it and lists no symbol twice; the rule set then holds the rules listed and no others.  And
every rule set is read back from the literal written for it. -/
theorem parse_literal (text : Word) (rules : RuleSet) :
    ((trim text).head? = some '\x7b' →
      (RuleSet.parse text = .ok rules ↔ ∃ l, Literal (trim text) l ∧ (l.map Prod.fst).Nodup ∧
        ∀ rule, rule ∈ rules.entries ↔ rule ∈ l)) ∧
    Literal rules.mappingWord rules.entries ∧
      RuleSet.parse rules.mappingWord = .ok rules := by
  refine ⟨fun hbrace => ?_, literal_mappingWord rules, ?_⟩
  · rw [parse_eq_mapping hbrace, parse_eq_ok_iff_of_trimmed (trimmed_trim text)]
    refine exists_congr fun l => and_congr_right fun _ => ?_
    rw [adds_empty_iff]
    exact and_congr_right fun hnodup => Table.eq_ofList_iff hnodup
  · have hliteral := literal_mappingWord rules
    have htrim : trim rules.mappingWord = rules.mappingWord := trim_eq_self hliteral.trimmed
    rw [parse_eq_mapping (by rw [htrim]; rfl), htrim, parse_eq_ok_iff_of_trimmed hliteral.trimmed]
    refine ⟨rules.entries, hliteral, adds_empty_iff.2 ⟨rules.nodup_keys, ?_⟩⟩
    exact (Table.ofList_entries rules).symm

/-- A literal with both quotes, an escaped quote, an empty replacement, white space between tokens
and at its ends, and a comma before its closing brace. -/
def sampleLiteral : Word := " \x7b 'F' : \"F\\\"-\" ,'-':'' , \x7d\n".toList

/-- The grammar derives it, and so its two rules are what is read. -/
theorem parse_literal_sample :
    (trim sampleLiteral).head? = some '\x7b' ∧
      RuleSet.parse sampleLiteral = .ok (Table.ofList [('F', ['F', '\x22', '-']), ('-', [])]) := by
  have hbrace : (trim sampleLiteral).head? = some '\x7b' := by decide
  have hforward : Mapping.Entry "'F' : \"F\\\"-\"".toList ('F', ['F', '\x22', '-']) := by
    have hkey : Spells '\x27' ['F'] ['F'] := .plain (by decide) (by decide) .nil
    have hvalue : Spells '\x22' ['F', '\\', '\x22', '-'] ['F', '\x22', '-'] :=
      .plain (by decide) (by decide) (.escaped '\x22' (.plain (by decide) (by decide) .nil))
    exact .mk (.mk (Or.inl rfl) hkey) spaces_blank spaces_blank (.mk (Or.inr rfl) hvalue)
  have hminus : Mapping.Entry "'-':''".toList ('-', []) := by
    have hkey : Spells '\x27' ['-'] ['-'] := .plain (by decide) (by decide) .nil
    exact .mk (.mk (Or.inl rfl) hkey) spaces_nil spaces_nil (.mk (Or.inl rfl) .nil)
  have hliteral : Literal (trim sampleLiteral) [('F', ['F', '\x22', '-']), ('-', [])] :=
    .full spaces_blank (.cons hforward spaces_blank spaces_nil (.last hminus))
      (.comma spaces_blank spaces_blank)
  have hnodup : ([('F', ['F', '\x22', '-']), ('-', [])].map Prod.fst).Nodup := by decide
  refine ⟨hbrace, ((parse_literal sampleLiteral _).1 hbrace).2 ⟨_, hliteral, hnodup, ?_⟩⟩
  exact (Table.eq_ofList_iff hnodup).1 rfl

end RuleSet

end Camouflage
