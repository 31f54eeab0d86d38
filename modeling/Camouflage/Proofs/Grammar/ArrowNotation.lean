/-
Camouflage/Proofs/Grammar/ArrowNotation.lean

What arrow notation says.  `Arrow.parse_eq_ok_iff` describes the reader without
its loop: it gives a rule set exactly if every entry of the text reads as a
rule (`Arrow.ReadsAs`) and no symbol has two of them.

The entries of a text are trimmed and hold no entry end (`mem_entries`), they
split where the text does (`entries_append_cons`), and blanks at either end of
the text make no difference to them.  The last is why it does not matter that
the text is trimmed before its notation is chosen (`RuleSet.parse_eq_arrow`).
-/
import Mathlib.Data.List.Forall2
import Camouflage.Grammar.Notation
import Camouflage.Proofs.Grammar.Adding
import Camouflage.Proofs.Text.Trim

namespace Camouflage

namespace Arrow

open Text

/-! ### Entries -/

theorem pieces_eq_splitOnP (text : Word) : pieces text = text.splitOnP isEntryEnd := by
  induction text with
  | nil => rfl
  | cons c rest ih =>
    rw [pieces, List.splitOnP_cons_eq_if_modifyHead, ih]
    by_cases hc : isEntryEnd c
    · rw [if_pos hc, if_pos hc]
    · obtain ⟨piece, others, h⟩ := List.exists_cons_of_ne_nil (List.splitOnP_ne_nil isEntryEnd rest)
      rw [if_neg hc, if_neg hc, h, List.modifyHead_cons]

/-- No piece of a text holds an entry end. -/
theorem not_isEntryEnd_of_mem_pieces {text piece : Word} (h : piece ∈ pieces text) :
    ∀ c ∈ piece, isEntryEnd c = false := by
  induction text generalizing piece with
  | nil =>
    rw [pieces, List.mem_singleton] at h
    subst h
    exact fun c hc => absurd hc List.not_mem_nil
  | cons c rest ih =>
    rw [pieces] at h
    split at h
    · rcases List.mem_cons.1 h with rfl | h
      · exact fun d hd => absurd hd List.not_mem_nil
      · exact ih h
    · rename_i hc
      have hc : isEntryEnd c = false := Bool.eq_false_iff.2 hc
      -- only the first piece behind `c` grows by it
      split at h
      · rw [List.mem_singleton] at h
        subst h
        intro d hd
        rw [List.mem_singleton.1 hd]
        exact hc
      · rename_i first others hpieces
        rcases List.mem_cons.1 h with rfl | h
        · intro d hd
          rcases List.mem_cons.1 hd with rfl | hd
          · exact hc
          · exact ih (hpieces ▸ List.mem_cons_self) d hd
        · exact ih (hpieces ▸ List.mem_cons_of_mem _ h)

/-- An entry is trimmed, holds no entry end and is not empty. -/
theorem mem_entries {text entry : Word} (h : entry ∈ entries text) :
    Trimmed entry ∧ (∀ c ∈ entry, isEntryEnd c = false) ∧ entry ≠ [] := by
  obtain ⟨hmem, hne⟩ := List.mem_filter.1 h
  obtain ⟨piece, hpiece, rfl⟩ := List.mem_map.1 hmem
  refine ⟨trimmed_trim piece, fun c hc => ?_, by simpa using hne⟩
  exact not_isEntryEnd_of_mem_pieces hpiece c (mem_of_mem_trim hc)

@[simp] theorem entries_nil : entries [] = [] := rfl

/-- The entries of a text split at every entry end. -/
theorem entries_append_cons {s : Char} (hs : isEntryEnd s) (text rest : Word) :
    entries (text ++ s :: rest) = entries text ++ entries rest := by
  rw [entries, pieces_eq_splitOnP, List.splitOnP_append_cons text rest hs, List.map_append,
    List.filter_append, ← pieces_eq_splitOnP, ← pieces_eq_splitOnP]
  rfl

/-- A text without entry ends is one entry, unless it is blank. -/
theorem entries_of_not_isEntryEnd {text : Word} (h : ∀ c ∈ text, isEntryEnd c = false) :
    entries text = [trim text].filter fun e => !e.isEmpty := by
  rw [entries, pieces_eq_splitOnP, List.splitOnP_eq_singleton h]
  rfl

/-- Induction along the entry ends of a text. -/
@[elab_as_elim]
theorem entry_end_induction {motive : Word → Prop}
    (whole : ∀ w : Word, (∀ c ∈ w, isEntryEnd c = false) → motive w)
    (split : ∀ (front : Word) (s : Char) (back : Word), isEntryEnd s →
      motive front → motive back → motive (front ++ s :: back)) (text : Word) : motive text := by
  by_cases hall : ∀ c ∈ text, isEntryEnd c = false
  · exact whole text hall
  · push Not at hall
    obtain ⟨s, hmem, hs⟩ := hall
    obtain ⟨front, back, heq⟩ := List.append_of_mem hmem
    rw [heq]
    exact split front s back (Bool.ne_false_iff.1 hs)
      (entry_end_induction whole split front) (entry_end_induction whole split back)
termination_by text.length
decreasing_by
  all_goals
    rw [heq, List.length_append, List.length_cons]
    omega

/-! ### Blanks at the ends of a text -/

/-- A blank in front of a text makes no difference. -/
theorem entries_cons_blank {b : Char} (hb : isBlank b) (text : Word) :
    entries (b :: text) = entries text := by
  by_cases hend : isEntryEnd b
  · exact entries_append_cons hend [] text
  induction text using entry_end_induction with
  | whole text hall =>
    have hall' : ∀ c ∈ b :: text, isEntryEnd c = false :=
      List.forall_mem_cons.2 ⟨Bool.eq_false_iff.2 hend, hall⟩
    rw [entries_of_not_isEntryEnd hall', entries_of_not_isEntryEnd hall, trim_cons hb]
  | split front s back hs ihfront _ =>
    rw [← List.cons_append, entries_append_cons hs, entries_append_cons hs, ihfront]

/-- A blank behind a text makes no difference. -/
theorem entries_concat_blank {b : Char} (hb : isBlank b) (text : Word) :
    entries (text ++ [b]) = entries text := by
  by_cases hend : isEntryEnd b
  · rw [entries_append_cons hend, entries_nil, List.append_nil]
  induction text using entry_end_induction with
  | whole text hall =>
    have hall' : ∀ c ∈ text ++ [b], isEntryEnd c = false :=
      List.forall_mem_append.2 ⟨hall, List.forall_mem_singleton.2 (Bool.eq_false_iff.2 hend)⟩
    rw [entries_of_not_isEntryEnd hall', entries_of_not_isEntryEnd hall, trim_concat hb]
  | split front s back hs _ ihback =>
    rw [List.append_assoc, List.cons_append, entries_append_cons hs, entries_append_cons hs,
      ihback]

/-- It makes no difference to its entries whether a text is trimmed. -/
theorem entries_trim (text : Word) : entries (trim text) = entries text :=
  apply_trim (fun _ w hc => entries_cons_blank hc w) (fun _ w hc => entries_concat_blank hc w) text

/-! ### One entry -/

/-- An entry is taken apart at a separator, and no `=` stands before it. -/
theorem splitEntry_eq_some {entry key rest : Word} (h : splitEntry entry = some (key, rest)) :
    '=' ∉ key ∧ (entry = key ++ '-' :: '>' :: rest ∨ entry = key ++ '=' :: rest) := by
  fun_induction splitEntry entry generalizing key with
  | case1 => cases h
  | case2 rest' =>
    cases h
    exact ⟨List.not_mem_nil, Or.inl rfl⟩
  | case3 rest' =>
    cases h
    exact ⟨List.not_mem_nil, Or.inr rfl⟩
  | case4 c rest' harrow hequals ih =>
    obtain ⟨⟨key', rest''⟩, hsplit, heq⟩ := Option.map_eq_some_iff.1 h
    cases heq
    -- no separator begins at `c`, so it belongs to the key
    obtain ⟨hnot, hor⟩ := ih hsplit
    refine ⟨fun hmem => ?_, ?_⟩
    · rcases List.mem_cons.1 hmem with heq | hmem
      · exact hequals heq.symm
      · exact hnot hmem
    · rcases hor with rfl | rfl
      · exact Or.inl rfl
      · exact Or.inr rfl

/-- Both parts of an entry are made of characters of the entry. -/
theorem splitEntry_subset {entry key rest : Word} (h : splitEntry entry = some (key, rest)) :
    key ⊆ entry ∧ rest ⊆ entry := by
  obtain ⟨-, rfl | rfl⟩ := splitEntry_eq_some h
  · refine ⟨List.subset_append_left _ _, fun c hc => ?_⟩
    exact List.mem_append_right _ (List.mem_cons_of_mem _ (List.mem_cons_of_mem _ hc))
  · refine ⟨List.subset_append_left _ _, fun c hc => ?_⟩
    exact List.mem_append_right _ (List.mem_cons_of_mem _ hc)

/-- An entry says that a symbol turns into a replacement. -/
def ReadsAs (entry : Word) (rule : Char × Word) : Prop :=
  ∃ key rest, splitEntry entry = some (key, rest) ∧ trim key = [rule.1] ∧ trim rest = rule.2

/-! ### The reader -/

theorem addEntries_eq_ok_iff {rules rules' : RuleSet} {number : Nat} {es : List Word} :
    addEntries rules number es = .ok rules' ↔
      ∃ l, List.Forall₂ ReadsAs es l ∧ rules.Adds l rules' := by
  induction es generalizing rules number with
  | nil =>
    constructor
    · intro h
      cases h
      exact ⟨[], List.Forall₂.nil, rfl⟩
    · rintro ⟨l, hl, hadds⟩
      cases hl
      rw [show rules' = rules from hadds]
      rfl
  | cons entry rest ih =>
    rw [addEntries]
    constructor
    · intro h
      split at h
      · cases h
      · rename_i key value hsplit
        obtain ⟨symbol, hsymbol, h⟩ := Outcome.bind_eq_ok_iff.1 h
        obtain ⟨middle, hadd, h⟩ := Outcome.bind_eq_ok_iff.1 h
        obtain ⟨l, hl, hadds⟩ := ih.1 h
        have hkey := RuleSet.symbolOfKey_eq_ok_iff.1 hsymbol
        exact ⟨(symbol, trim value) :: l, hl.cons ⟨key, value, hsplit, hkey, rfl⟩,
          middle, hadd, hadds⟩
    · rintro ⟨l, hl, hadds⟩
      cases hl with
      | @cons _ rule _ l hreads hl =>
        obtain ⟨key, value, hsplit, hkey, hvalue⟩ := hreads
        obtain ⟨middle, hadd, hadds⟩ := hadds
        -- the number of the entry is only for messages
        rw [hsplit]
        show (RuleSet.symbolOfKey (trim key) >>= fun symbol =>
          rules.add symbol (trim value) >>= fun rules => addEntries rules (number + 1) rest) = _
        refine Outcome.bind_eq_ok_iff.2 ⟨rule.1, RuleSet.symbolOfKey_eq_ok_iff.2 hkey, ?_⟩
        rw [hvalue]
        exact Outcome.bind_eq_ok_iff.2 ⟨middle, hadd, ih.2 ⟨l, hl, hadds⟩⟩

/-- A text in arrow notation is read exactly if each of its entries reads as a
rule and no two of these rules are for one symbol; they are then the rule set. -/
theorem parse_eq_ok_iff {text : Word} {rules : RuleSet} :
    Arrow.parse text = .ok rules ↔ ∃ l, List.Forall₂ ReadsAs (entries text) l ∧
      (l.map Prod.fst).Nodup ∧ rules = Table.ofList l := by
  rw [Arrow.parse, addEntries_eq_ok_iff]
  constructor
  · rintro ⟨l, hl, hadds⟩
    exact ⟨l, hl, RuleSet.adds_empty_iff.1 hadds⟩
  · rintro ⟨l, hl, h⟩
    exact ⟨l, hl, RuleSet.adds_empty_iff.2 h⟩

/-- Every rule that is read stands in some entry of the text. -/
theorem exists_mem_entries {text : Word} {rules : RuleSet} (h : Arrow.parse text = .ok rules)
    {rule : Char × Word} (hrule : rule ∈ rules.entries) :
    ∃ entry ∈ entries text, ReadsAs entry rule := by
  obtain ⟨l, hl, hnodup, rfl⟩ := parse_eq_ok_iff.1 h
  rw [Table.mem_entries_ofList hnodup] at hrule
  clear h hnodup
  generalize entries text = es at hl ⊢
  induction hl with
  | nil => exact absurd hrule List.not_mem_nil
  | @cons entry rule' es l hreads hl ih =>
    rcases List.mem_cons.1 hrule with rfl | hrule
    · exact ⟨entry, List.mem_cons_self, hreads⟩
    · obtain ⟨entry', hmem, hreads'⟩ := ih hrule
      exact ⟨entry', List.mem_cons_of_mem _ hmem, hreads'⟩

theorem parse_trim (text : Word) : Arrow.parse (trim text) = Arrow.parse text := by
  rw [Arrow.parse, Arrow.parse, entries_trim]

end Arrow

/-- A text is in arrow notation unless it begins with a brace. -/
theorem RuleSet.parse_eq_arrow {text : Word} (h : (Text.trim text).head? ≠ some '{') :
    RuleSet.parse text = Arrow.parse text := by
  rw [← Arrow.parse_trim, RuleSet.parse]
  split
  · rename_i hnil
    rw [hnil]
    rfl
  · rename_i rest hbrace
    rw [hbrace] at h
    exact absurd rfl h
  · rfl

end Camouflage
