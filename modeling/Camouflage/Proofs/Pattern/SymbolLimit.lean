/-
Camouflage/Proofs/Pattern/SymbolLimit.lean

What the symbol limit bounds.  Preparing the symbols stops at the limit exactly
if the last generation is longer than the limit.

The generations before it are bounded only in part.  A symbol *lasts* if
something of it is left in the last generation, and in every generation at most
as many symbols last as the limit allows.  What vanishes on the way is not
counted: a grammar may grow far past the limit and shrink again before the last
generation (`generation_beyond_symbol_limit`).  Where no replacement is empty,
every symbol lasts, and then no generation is longer than the limit.
-/
import Camouflage.Number.Binary64
import Camouflage.Pattern.Generation
import Camouflage.Proofs.Grammar.Census

namespace Camouflage

/-! ### Symbols that last -/

namespace RuleSet

variable (rules : RuleSet)

/-- The symbols of a word of which something is left some generations later. -/
def lasting (n : Nat) (word : Word) : Word :=
  word.filter fun c => !(rules.generations n [c]).isEmpty

@[simp] theorem lasting_nil (n : Nat) : rules.lasting n [] = [] := rfl

/-- Every symbol that lasts leaves at least one symbol, and no two leave the same one. -/
theorem length_lasting_le (n : Nat) (word : Word) :
    (rules.lasting n word).length ≤ (rules.generations n word).length := by
  induction word with
  | nil => rw [lasting_nil, generations_nil]
  | cons c word ih =>
    rw [← List.singleton_append, generations_append, List.length_append, List.singleton_append,
      lasting, List.filter_cons]
    split
    · -- what is left of `c` pays for `c` itself
      rename_i hlasts
      have hpos : 0 < (rules.generations n [c]).length := by
        rw [List.length_pos_iff]
        intro hnil
        simp [hnil] at hlasts
      rw [List.length_cons]
      rw [lasting] at ih
      omega
    · rw [lasting] at ih
      omega

variable {rules}

/-- Without empty replacements no image is empty. -/
theorem image_ne_nil (hfull : ∀ e ∈ rules.entries, e.2 ≠ []) (c : Char) : rules.image c ≠ [] := by
  rw [image]
  cases h : rules.get? c with
  | none => exact List.cons_ne_nil c []
  | some replacement => exact hfull (c, replacement) (Table.get?_eq_some_iff.1 h)

theorem generations_ne_nil (hfull : ∀ e ∈ rules.entries, e.2 ≠ []) (n : Nat) {word : Word}
    (hword : word ≠ []) : rules.generations n word ≠ [] := by
  induction n generalizing word with
  | zero => exact hword
  | succ n ih =>
    refine ih ?_
    obtain ⟨c, rest, rfl⟩ := List.exists_cons_of_ne_nil hword
    rw [generation_cons]
    exact List.append_ne_nil_of_left_ne_nil (image_ne_nil hfull c) _

/-- Without empty replacements every symbol lasts. -/
theorem lasting_eq_self (hfull : ∀ e ∈ rules.entries, e.2 ≠ []) (n : Nat) (word : Word) :
    rules.lasting n word = word := by
  refine List.filter_eq_self.2 ?_
  intro c _
  have hne : rules.generations n [c] ≠ [] := generations_ne_nil hfull n (List.cons_ne_nil c [])
  simpa using hne

end RuleSet

/-! ### Preparing the symbols -/

/-- The bracket check finds fault with the grammar only. -/
theorem checkBranchesFrom_error {index opened : Nat} {word : Word} {fault : Fault}
    (h : checkBranchesFrom index opened word = .error fault) :
    ∃ cause, fault = .grammar cause := by
  fun_induction checkBranchesFrom index opened word with
  | case1 => cases h
  | case2 index opened hopened =>
    cases h
    exact ⟨.unclosedOpens opened, rfl⟩
  | case3 _ _ _ _ _ ih => exact ih h
  | case4 index symbol rest =>
    cases h
    exact ⟨.unmatchedClose index, rfl⟩
  | case5 _ _ _ _ _ ih => exact ih h
  | case6 _ _ _ _ _ _ ih => exact ih h

namespace Config

variable {α : Type} {config : Config α} {rules : RuleSet}

/-- A symbol limit is below the largest count, so the prediction decides on the true length. -/
theorem limit_lt_expandedLength_iff (depth : Nat) :
    config.symbolLimit.toNat < expandedLength config.start rules depth
      ↔ config.symbolLimit.toNat < (expand config.start rules depth).length := by
  have hlimit := config.symbolLimit.toNat_lt
  rw [expandedLength_eq_stopped, stopped, countLimit]
  omega

/-- A last generation longer than the limit is refused before it is built. -/
theorem prepareSymbols_of_limit_lt (loaded : config.rules.load = .ok rules)
    (h : config.symbolLimit.toNat < (expand config.start rules config.depth.toNat).length) :
    config.prepareSymbols = .error (.config (.tooManySymbols config.depth.toNat
      (expandedLength config.start rules config.depth.toNat) config.symbolLimit.toNat)) := by
  rw [prepareSymbols, loaded]
  simp only [bind, Except.bind]
  rw [if_pos ((limit_lt_expandedLength_iff _).2 h)]

/-- A last generation within the limit is built, and only its brackets can still be wrong. -/
theorem prepareSymbols_of_le_limit (loaded : config.rules.load = .ok rules)
    (h : (expand config.start rules config.depth.toNat).length ≤ config.symbolLimit.toNat) :
    config.prepareSymbols = (checkBranches (expand config.start rules config.depth.toNat)).map
      fun _ => expand config.start rules config.depth.toNat := by
  rw [prepareSymbols, loaded]
  simp only [bind, Except.bind]
  rw [if_neg fun hlt => Nat.not_lt.2 h ((limit_lt_expandedLength_iff _).1 hlt)]
  rfl

/-! ### Stopping at the limit -/

/-- Preparing the symbols stops because there would be too many of them. -/
def StopsAtLimit (config : Config α) : Prop :=
  ∃ depth predicted limit,
    config.prepareSymbols = .error (.config (.tooManySymbols depth predicted limit))

/-- Preparing the symbols stops at the limit exactly if the last generation is longer. -/
theorem stopsAtLimit_iff (loaded : config.rules.load = .ok rules) :
    config.StopsAtLimit
      ↔ config.symbolLimit.toNat < (expand config.start rules config.depth.toNat).length := by
  constructor
  · rintro ⟨depth, predicted, limit, hstop⟩
    by_contra hle
    -- within the limit only the brackets are left to complain about
    rw [prepareSymbols_of_le_limit loaded (Nat.not_lt.1 hle)] at hstop
    cases hcheck : checkBranches (expand config.start rules config.depth.toNat) with
    | ok _ =>
      rw [hcheck] at hstop
      cases hstop
    | error fault =>
      obtain ⟨cause, rfl⟩ := checkBranchesFrom_error hcheck
      rw [hcheck] at hstop
      cases hstop
  · intro hlt
    exact ⟨_, _, _, prepareSymbols_of_limit_lt loaded hlt⟩

/-- **What the symbol limit bounds.**  Preparing the symbols goes past the limit check exactly if the
last generation is within the limit.  Then in every generation on the way at most that many symbols
last, and if no replacement is empty, no generation is longer. -/
theorem lasting_within_symbol_limit (config : Config α) (rules : RuleSet)
    (loaded : config.rules.load = .ok rules) :
    (¬ config.StopsAtLimit
      ↔ (expand config.start rules config.depth.toNat).length ≤ config.symbolLimit.toNat) ∧
    (¬ config.StopsAtLimit → ∀ i ≤ config.depth.toNat,
      (rules.lasting (config.depth.toNat - i) (expand config.start rules i)).length
          ≤ config.symbolLimit.toNat ∧
        ((∀ e ∈ rules.entries, e.2 ≠ []) →
          (expand config.start rules i).length ≤ config.symbolLimit.toNat)) := by
  have hiff : ¬ config.StopsAtLimit
      ↔ (expand config.start rules config.depth.toNat).length ≤ config.symbolLimit.toNat := by
    rw [stopsAtLimit_iff loaded, Nat.not_lt]
  refine ⟨hiff, ?_⟩
  intro hpassed i hi
  -- the last generation is what is left of generation `i` after the remaining ones
  have hlast : expand config.start rules config.depth.toNat
      = rules.generations (config.depth.toNat - i) (expand config.start rules i) := by
    rw [expand_eq_generations, expand_eq_generations, ← RuleSet.generations_add,
      Nat.add_sub_cancel' hi]
  have hlasting : (rules.lasting (config.depth.toNat - i) (expand config.start rules i)).length
      ≤ config.symbolLimit.toNat := by
    refine (rules.length_lasting_le _ _).trans ?_
    rw [← hlast]
    exact hiff.1 hpassed
  refine ⟨hlasting, ?_⟩
  intro hfull
  rw [RuleSet.lasting_eq_self hfull] at hlasting
  exact hlasting

/-! ### A grammar that grows and vanishes -/

/-- One symbol becomes four, and then all four vanish. -/
def burst : Config Float :=
  { (Config.standard : Config Float) with
    start := ['A']
    rules := .table (Table.ofList [(['A'], ['B', 'B', 'B', 'B']), (['B'], [])])
    depth := 2
    symbolLimit := 1 }

/-- The rules of `burst`. -/
def burstRules : RuleSet := Table.ofList [('A', ['B', 'B', 'B', 'B']), ('B', [])]

theorem burst_loaded : burst.rules.load = .ok burstRules := by
  rfl

/-- The statement at `burst`: no symbol of its four lasts, and the last generation is empty. -/
theorem lasting_within_symbol_limit_burst :
    burst.rules.load = .ok burstRules ∧ ¬ burst.StopsAtLimit ∧
      (burstRules.lasting 1 (expand burst.start burstRules 1)).length
        ≤ burst.symbolLimit.toNat := by
  have hall := lasting_within_symbol_limit burst burstRules burst_loaded
  have hpassed : ¬ burst.StopsAtLimit := hall.1.2 (by decide)
  exact ⟨burst_loaded, hpassed, (hall.2 hpassed 1 (by decide)).1⟩

/-- The limit does not bound every generation: the first one of `burst` has four symbols and passes
a limit of one. -/
theorem generation_beyond_symbol_limit :
    ¬ ∀ (config : Config Float) (rules : RuleSet), config.rules.load = .ok rules →
      ¬ config.StopsAtLimit → ∀ i, 1 ≤ i → i ≤ config.depth.toNat →
        (expand config.start rules i).length ≤ config.symbolLimit.toNat := by
  intro hbound
  have hpassed : ¬ burst.StopsAtLimit := by
    rw [stopsAtLimit_iff burst_loaded]
    decide
  exact absurd (hbound burst burstRules burst_loaded hpassed 1 (by decide) (by decide)) (by decide)

end Config

end Camouflage
