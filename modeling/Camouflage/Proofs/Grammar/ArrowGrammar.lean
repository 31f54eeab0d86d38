/-
Camouflage/Proofs/Grammar/ArrowGrammar.lean

The grammar of arrow notation, without its reader, and what the reader answers to
every text (`RuleSet.parse_arrow`).

An entry is taken apart at its first separator (`FirstSplit`).  Either kind of
separator may be the first, and what looks like one further on belongs to the
replacement.  No two separators begin at the same place, so an entry has one first
split at most (`FirstSplit.unique`); the reader finds it exactly if there is a
separator at all.

An entry that cannot be read is at fault in one of three ways (`EntryFault`): it has
no separator, its key is not one symbol, or its symbol is taken by an entry before
it.  The reader goes from entry to entry and stops at the first one at fault, so the
fault it reports tells where it got to and what it met there.
-/
import Camouflage.Proofs.Grammar.ArrowNotation

namespace Camouflage

namespace Arrow

open Text

/-! ### The grammar -/

/-- What may stand between a key and its replacement. -/
inductive Separator : Word → Prop
  | arrow : Separator ['-', '>']
  | equals : Separator ['=']

/-- An entry has a separator somewhere. -/
def HasSeparator (entry : Word) : Prop :=
  ∃ front separator back, Separator separator ∧ entry = front ++ (separator ++ back)

/-- In an entry, `key` stands before the first separator and `rest` behind it. -/
structure FirstSplit (entry key rest : Word) : Prop where
  parts : ∃ separator, Separator separator ∧ entry = key ++ (separator ++ rest)
  first : ∀ {front separator back}, Separator separator → entry = front ++ (separator ++ back) →
    key.length ≤ front.length

/-- An entry says that a symbol turns into a replacement. -/
def Says (entry : Word) (rule : Char × Word) : Prop :=
  ∃ key rest, FirstSplit entry key rest ∧ trim key = [rule.1] ∧ trim rest = rule.2

/-- What is at fault with an entry, where some symbols are taken by the entries before it. -/
inductive EntryFault (taken : Char → Prop) (number : Nat) (entry : Word) : GrammarFault → Prop
  | noSeparator (h : ¬ HasSeparator entry) :
      EntryFault taken number entry (.missingSeparator number entry)
  | noSymbol {key rest : Word} (h : FirstSplit entry key rest) (hkey : ∀ c, trim key ≠ [c]) :
      EntryFault taken number entry (.keyNotSymbol (trim key))
  | repeated {rule : Char × Word} (h : Says entry rule) (htaken : taken rule.1) :
      EntryFault taken number entry (.duplicateRule rule.1)

/-- Of some entries, counted from one, the first one at fault has this fault: those before it say
rules for different symbols. -/
def FirstFault (es : List Word) (cause : GrammarFault) : Prop :=
  ∃ front entry back l, es = front ++ entry :: back ∧ List.Forall₂ Says front l ∧
    (l.map Prod.fst).Nodup ∧ EntryFault (· ∈ l.map Prod.fst) (front.length + 1) entry cause

/-! ### Taking an entry apart -/

/-- No separator begins an entry whose first split is further on. -/
theorem not_separator_of_cons {c : Char} {entry : Word}
    (harrow : ∀ rest, c = '-' → entry = '>' :: rest → False) (hequals : c = '=' → False)
    {separator back : Word} (h : Separator separator) : c :: entry ≠ separator ++ back := by
  intro heq
  cases h with
  | arrow =>
    obtain ⟨hc, hentry⟩ := List.cons.inj heq
    exact harrow back hc hentry
  | equals => exact hequals (List.cons.inj heq).1

/-- The first split of an entry is further on where something stands before it. -/
theorem FirstSplit.cons {c : Char} {entry key rest : Word} (h : FirstSplit entry key rest)
    (hnone : ∀ {separator back}, Separator separator → c :: entry ≠ separator ++ back) :
    FirstSplit (c :: entry) (c :: key) rest := by
  constructor
  · obtain ⟨separator, hseparator, hparts⟩ := h.parts
    exact ⟨separator, hseparator, congrArg (c :: ·) hparts⟩
  · intro front separator back hseparator heq
    cases front with
    | nil => exact absurd (show c :: entry = separator ++ back from heq) (hnone hseparator)
    | cons c' front => exact Nat.succ_le_succ (h.first hseparator (List.cons.inj heq).2)

theorem FirstSplit.unique {entry key rest key' rest' : Word} (h : FirstSplit entry key rest)
    (h' : FirstSplit entry key' rest') : key = key' ∧ rest = rest' := by
  obtain ⟨separator, hseparator, hparts⟩ := h.parts
  obtain ⟨separator', hseparator', hparts'⟩ := h'.parts
  have hlength : key.length = key'.length :=
    Nat.le_antisymm (h.first hseparator' hparts') (h'.first hseparator hparts)
  obtain ⟨hkey, hbehind⟩ := List.append_inj (hparts.symm.trans hparts') hlength
  refine ⟨hkey, ?_⟩
  -- the separators begin with different characters
  cases hseparator with
  | arrow =>
    cases hseparator' with
    | arrow => exact List.append_cancel_left hbehind
    | equals => exact absurd (List.cons.inj hbehind).1 (by decide)
  | equals =>
    cases hseparator' with
    | arrow => exact absurd (List.cons.inj hbehind).1 (by decide)
    | equals => exact List.append_cancel_left hbehind

theorem firstSplit_of_splitEntry {entry key rest : Word}
    (h : splitEntry entry = some (key, rest)) : FirstSplit entry key rest := by
  fun_induction splitEntry entry generalizing key with
  | case1 => cases h
  | case2 rest' =>
    cases h
    exact ⟨⟨_, .arrow, rfl⟩, fun _ _ => Nat.zero_le _⟩
  | case3 rest' =>
    cases h
    exact ⟨⟨_, .equals, rfl⟩, fun _ _ => Nat.zero_le _⟩
  | case4 c rest' harrow hequals ih =>
    obtain ⟨⟨key', rest''⟩, hsplit, heq⟩ := Option.map_eq_some_iff.1 h
    cases heq
    exact (ih hsplit).cons (not_separator_of_cons harrow hequals)

/-- An entry that is not taken apart has no separator. -/
theorem not_hasSeparator_of_splitEntry {entry : Word} (h : splitEntry entry = none) :
    ¬ HasSeparator entry := by
  fun_induction splitEntry entry with
  | case1 =>
    rintro ⟨front, separator, back, hseparator, heq⟩
    obtain ⟨-, hbehind⟩ := List.append_eq_nil_iff.1 heq.symm
    cases hseparator with
    | arrow => cases hbehind
    | equals => cases hbehind
  | case2 rest' => cases h
  | case3 rest' => cases h
  | case4 c rest' harrow hequals ih =>
    rintro ⟨front, separator, back, hseparator, heq⟩
    cases front with
    | nil => exact not_separator_of_cons harrow hequals hseparator heq
    | cons c' front =>
      refine ih (Option.map_eq_none_iff.1 h) ⟨front, separator, back, hseparator, ?_⟩
      exact (List.cons.inj heq).2

theorem FirstSplit.hasSeparator {entry key rest : Word} (h : FirstSplit entry key rest) :
    HasSeparator entry := by
  obtain ⟨separator, hseparator, hparts⟩ := h.parts
  exact ⟨key, separator, rest, hseparator, hparts⟩

/-- The reader takes an entry apart at its first separator. -/
theorem splitEntry_eq_some_iff {entry key rest : Word} :
    splitEntry entry = some (key, rest) ↔ FirstSplit entry key rest := by
  refine ⟨firstSplit_of_splitEntry, fun h => ?_⟩
  cases hsplit : splitEntry entry with
  | none => exact absurd h.hasSeparator (not_hasSeparator_of_splitEntry hsplit)
  | some p =>
    obtain ⟨hkey, hrest⟩ := (firstSplit_of_splitEntry hsplit).unique h
    rw [← hkey, ← hrest]

theorem splitEntry_eq_none_iff {entry : Word} : splitEntry entry = none ↔ ¬ HasSeparator entry := by
  refine ⟨not_hasSeparator_of_splitEntry, fun h => ?_⟩
  cases hsplit : splitEntry entry with
  | none => rfl
  | some p => exact absurd (firstSplit_of_splitEntry hsplit).hasSeparator h

theorem readsAs_iff_says {entry : Word} {rule : Char × Word} :
    ReadsAs entry rule ↔ Says entry rule :=
  exists_congr fun _ => exists_congr fun _ => and_congr_left' splitEntry_eq_some_iff

theorem readsAs_eq_says : ReadsAs = Says :=
  funext fun _ => funext fun _ => propext readsAs_iff_says

/-! ### One entry -/

/-- Adds the rule of one entry, which has the given number. -/
def addEntry (rules : RuleSet) (number : Nat) (entry : Word) : Outcome RuleSet :=
  match splitEntry entry with
  | none => .error (.grammar (.missingSeparator number entry))
  | some (key, replacement) => do
    let symbol ← RuleSet.symbolOfKey (trim key)
    rules.add symbol (trim replacement)

theorem addEntries_cons (rules : RuleSet) (number : Nat) (entry : Word) (rest : List Word) :
    addEntries rules number (entry :: rest)
      = addEntry rules number entry >>= fun rules => addEntries rules (number + 1) rest := by
  rw [addEntries, addEntry]
  cases splitEntry entry with
  | none => rfl
  | some p =>
    obtain ⟨key, replacement⟩ := p
    dsimp only
    cases RuleSet.symbolOfKey (trim key) <;> rfl

theorem addEntry_eq_ok_iff {rules rules' : RuleSet} {number : Nat} {entry : Word} :
    addEntry rules number entry = .ok rules' ↔
      ∃ rule, Says entry rule ∧ rules.add rule.1 rule.2 = .ok rules' := by
  rw [addEntry]
  constructor
  · intro h
    split at h
    · cases h
    · rename_i key replacement hsplit
      obtain ⟨symbol, hsymbol, hadd⟩ := Outcome.bind_eq_ok_iff.1 h
      have hkey := RuleSet.symbolOfKey_eq_ok_iff.1 hsymbol
      exact ⟨(symbol, trim replacement),
        ⟨key, replacement, firstSplit_of_splitEntry hsplit, hkey, rfl⟩, hadd⟩
  · rintro ⟨rule, ⟨key, replacement, hsplit, hkey, hreplacement⟩, hadd⟩
    rw [splitEntry_eq_some_iff.2 hsplit]
    refine Outcome.bind_eq_ok_iff.2 ⟨rule.1, RuleSet.symbolOfKey_eq_ok_iff.2 hkey, ?_⟩
    rw [hreplacement]
    exact hadd

/-- An entry is refused exactly if it is at fault. -/
theorem addEntry_eq_error_iff {rules : RuleSet} {number : Nat} {entry : Word} {fault : Fault} :
    addEntry rules number entry = .error fault ↔
      ∃ cause, EntryFault (rules.contains · = true) number entry cause ∧
        fault = .grammar cause := by
  rw [addEntry]
  constructor
  · intro h
    split at h
    · rename_i hsplit
      cases h
      exact ⟨_, .noSeparator (not_hasSeparator_of_splitEntry hsplit), rfl⟩
    · rename_i key replacement hsplit
      have hfirst := firstSplit_of_splitEntry hsplit
      rcases Outcome.bind_eq_error_iff.1 h with hsymbol | ⟨symbol, hsymbol, hadd⟩
      · obtain ⟨hkey, rfl⟩ := RuleSet.symbolOfKey_eq_error_iff.1 hsymbol
        exact ⟨_, .noSymbol hfirst hkey, rfl⟩
      · have hkey := RuleSet.symbolOfKey_eq_ok_iff.1 hsymbol
        obtain ⟨htaken, rfl⟩ := RuleSet.add_eq_error_iff.1 hadd
        have hsays : Says entry (symbol, trim replacement) :=
          ⟨key, replacement, hfirst, hkey, rfl⟩
        exact ⟨_, .repeated hsays htaken, rfl⟩
  · rintro ⟨cause, hcause, rfl⟩
    cases hcause with
    | noSeparator h => rw [splitEntry_eq_none_iff.2 h]
    | noSymbol h hkey =>
      rw [splitEntry_eq_some_iff.2 h]
      exact Outcome.bind_eq_error_iff.2
        (Or.inl (RuleSet.symbolOfKey_eq_error_iff.2 ⟨hkey, rfl⟩))
    | @repeated rule h htaken =>
      obtain ⟨key, replacement, hsplit, hkey, -⟩ := h
      rw [splitEntry_eq_some_iff.2 hsplit]
      refine Outcome.bind_eq_error_iff.2 (Or.inr ⟨rule.1, ?_, ?_⟩)
      · exact RuleSet.symbolOfKey_eq_ok_iff.2 hkey
      · exact RuleSet.add_eq_error_iff.2 ⟨htaken, rfl⟩

/-! ### All entries -/

/-- The reader fails exactly if it gets to an entry at fault, and with the fault of this entry. -/
theorem addEntries_eq_error_iff {rules : RuleSet} {number : Nat} {es : List Word} {fault : Fault} :
    addEntries rules number es = .error fault ↔
      ∃ front entry back l middle cause, es = front ++ entry :: back ∧
        List.Forall₂ Says front l ∧ rules.Adds l middle ∧
        EntryFault (middle.contains · = true) (number + front.length) entry cause ∧
        fault = .grammar cause := by
  induction es generalizing rules number with
  | nil =>
    constructor
    · intro h
      cases h
    · rintro ⟨front, entry, back, -, -, -, heq, -⟩
      exact absurd heq.symm (List.append_ne_nil_of_right_ne_nil front (List.cons_ne_nil entry back))
  | cons entry es ih =>
    rw [addEntries_cons, Outcome.bind_eq_error_iff]
    constructor
    · rintro (h | ⟨middle, hentry, hes⟩)
      · obtain ⟨cause, hcause, rfl⟩ := addEntry_eq_error_iff.1 h
        exact ⟨[], entry, es, [], rules, cause, rfl, .nil, rfl, hcause, rfl⟩
      · obtain ⟨rule, hsays, hadd⟩ := addEntry_eq_ok_iff.1 hentry
        obtain ⟨front, entry', back, l, last, cause, rfl, hfront, hadds, hcause, rfl⟩ := ih.1 hes
        refine ⟨entry :: front, entry', back, rule :: l, last, cause, rfl, .cons hsays hfront,
          ⟨middle, hadd, hadds⟩, ?_, rfl⟩
        rw [List.length_cons, Nat.add_comm front.length 1, ← Nat.add_assoc]
        exact hcause
    · rintro ⟨front, entry', back, l, last, cause, heq, hfront, hadds, hcause, rfl⟩
      cases hfront with
      | nil =>
        obtain ⟨rfl, rfl⟩ := List.cons.inj heq
        obtain rfl : last = rules := hadds
        exact Or.inl (addEntry_eq_error_iff.2 ⟨cause, hcause, rfl⟩)
      | @cons _ rule front l hsays hfront =>
        obtain ⟨rfl, rfl⟩ := List.cons.inj heq
        obtain ⟨middle, hadd, hadds⟩ := hadds
        refine Or.inr ⟨middle, addEntry_eq_ok_iff.2 ⟨rule, hsays, hadd⟩, ?_⟩
        rw [List.length_cons, Nat.add_comm front.length 1, ← Nat.add_assoc] at hcause
        exact ih.2 ⟨front, entry', back, l, last, cause, rfl, hfront, hadds, hcause, rfl⟩

/-- A text in arrow notation is refused exactly for the first of its entries at fault. -/
theorem parse_eq_error_iff {text : Word} {fault : Fault} :
    Arrow.parse text = .error fault ↔
      ∃ cause, FirstFault (entries text) cause ∧ fault = .grammar cause := by
  rw [Arrow.parse, addEntries_eq_error_iff]
  constructor
  · rintro ⟨front, entry, back, l, middle, cause, hes, hfront, hadds, hcause, rfl⟩
    obtain ⟨hnodup, rfl⟩ := RuleSet.adds_empty_iff.1 hadds
    refine ⟨cause, ⟨front, entry, back, l, hes, hfront, hnodup, ?_⟩, rfl⟩
    simp only [Table.contains_ofList hnodup, Nat.add_comm 1] at hcause
    exact hcause
  · rintro ⟨cause, ⟨front, entry, back, l, hes, hfront, hnodup, hcause⟩, rfl⟩
    refine ⟨front, entry, back, l, Table.ofList l, cause, hes, hfront,
      RuleSet.adds_empty_iff.2 ⟨hnodup, rfl⟩, ?_, rfl⟩
    simp only [Table.contains_ofList hnodup, Nat.add_comm 1]
    exact hcause

theorem entries_eq (text : Word) :
    entries text = ((text.splitOnP isEntryEnd).map trim).filter fun e => !e.isEmpty := by
  rw [entries, pieces_eq_splitOnP]

end Arrow

namespace RuleSet

open Text Arrow

/-! ### What is read and what is refused -/

/-- **The arrow texts that are read.**  A text that does not begin with a brace is cut at semicolons
and line ends, and what is left of the pieces when they are trimmed are its entries.  It is read
exactly if each of them says a rule and no two of these are for one symbol; the rule set then holds
these rules and no others.  Any other text is refused as malformed, for its first entry at fault. -/
theorem parse_arrow {text : Word} (hbrace : (trim text).head? ≠ some '{') :
    entries text = ((text.splitOnP isEntryEnd).map trim).filter (fun e => !e.isEmpty) ∧
    (∀ rules : RuleSet, RuleSet.parse text = .ok rules ↔
      ∃ l, List.Forall₂ Says (entries text) l ∧ (l.map Prod.fst).Nodup ∧
        ∀ rule, rule ∈ rules.entries ↔ rule ∈ l) ∧
    ∀ fault, RuleSet.parse text = .error fault ↔
      ∃ cause, FirstFault (entries text) cause ∧ fault = .grammar cause := by
  rw [parse_eq_arrow hbrace]
  refine ⟨entries_eq text, fun rules => ?_, fun fault => Arrow.parse_eq_error_iff⟩
  rw [Arrow.parse_eq_ok_iff, readsAs_eq_says]
  refine exists_congr fun l => and_congr_right fun _ => ?_
  exact and_congr_right fun hnodup => Table.eq_ofList_iff hnodup

/-- Entries with both separators, each the first one once, with a dash for a key in front of an
arrow, and with nothing between two semicolons. -/
def sampleArrows : Word := " F -> F=F; -->é;;\nG = ->\n".toList

/-- Each of them says a rule, and so these three are what is read. -/
theorem parse_arrow_sample :
    (trim sampleArrows).head? ≠ some '{' ∧
      RuleSet.parse sampleArrows
        = .ok (Table.ofList [('F', "F=F".toList), ('-', ['é']), ('G', ['-', '>'])]) := by
  have hbrace : (trim sampleArrows).head? ≠ some '{' := by decide
  have hentries :
      entries sampleArrows = ["F -> F=F".toList, "-->é".toList, "G = ->".toList] := by rfl
  have hforward : Says "F -> F=F".toList ('F', "F=F".toList) :=
    ⟨['F', ' '], " F=F".toList, firstSplit_of_splitEntry rfl, rfl, rfl⟩
  have hdash : Says "-->é".toList ('-', ['é']) :=
    ⟨['-'], ['é'], firstSplit_of_splitEntry rfl, rfl, rfl⟩
  have harrow : Says "G = ->".toList ('G', ['-', '>']) :=
    ⟨['G', ' '], " ->".toList, firstSplit_of_splitEntry rfl, rfl, rfl⟩
  have hnodup :
      ([('F', "F=F".toList), ('-', ['é']), ('G', ['-', '>'])].map Prod.fst).Nodup := by decide
  refine ⟨hbrace, ((parse_arrow hbrace).2.1 _).2 ⟨_, ?_, hnodup, ?_⟩⟩
  · rw [hentries]
    exact .cons hforward (.cons hdash (.cons harrow .nil))
  · exact (Table.eq_ofList_iff hnodup).1 rfl

end RuleSet

end Camouflage
