/-
Camouflage/Proofs/Grammar/Dyck.lean

The bracket check and the language of brackets.  A word passes exactly if its
brackets are a word of this language (`checkBranches_eq_ok_iff_dyck`), and the
report for any other word can be read off the numbers of brackets in its
beginnings (`checkBranches_decides_dyck`).

The check counts and the language nests.  They meet at the words that close some
number of branches (`Closes`): so many closes, each with a word of the language
before it, and one more such word at the end.  This is what the rest of a word has
to be where the counter stands at that number.

As long as no beginning has a close too many, the counter is the opens less the
closes (`openAfter_of_no_excess`).  So the first beginning that has one too many
ends with the close that is reported, and if there is none the counter at the end
is what is reported.
-/
import Mathlib.Data.Nat.Find
import Mathlib.Order.Bounds.Basic
import Camouflage.Proofs.Grammar.Balance

namespace Camouflage

/-! ### The language of brackets -/

/-- The words of brackets with partners: the empty word, and a pair of brackets around such a word
with such a word behind it. -/
inductive Dyck : Word → Prop
  | empty : Dyck []
  | pair {inner rest : Word} (first : Dyck inner) (second : Dyck rest) :
    Dyck ('[' :: (inner ++ ']' :: rest))

/-- The brackets of a word, everything else left out. -/
def brackets (word : Word) : Word := word.filter fun symbol => symbol = '[' || symbol = ']'

theorem brackets_other {symbol : Char} (hopen : symbol ≠ '[') (hclose : symbol ≠ ']')
    (rest : Word) : brackets (symbol :: rest) = brackets rest := by
  rw [brackets, List.filter_cons_of_neg (by simp [hopen, hclose])]
  rfl

/-- The words that close some number of branches, and open none that they do not close. -/
inductive Closes : Nat → Word → Prop
  | none {word : Word} (last : Dyck word) : Closes 0 word
  | one {inner rest : Word} {opened : Nat} (first : Dyck inner) (others : Closes opened rest) :
    Closes (opened + 1) (inner ++ ']' :: rest)

/-- An open in front takes one of the closes for itself. -/
theorem Closes.cons_open {opened : Nat} {word : Word} (h : Closes (opened + 1) word) :
    Closes opened ('[' :: word) := by
  cases h with
  | @one inner rest _ first others =>
    cases others with
    | none last => exact .none (.pair first last)
    | @one inner' rest' opened second others =>
      have hsplit : '[' :: (inner ++ ']' :: (inner' ++ ']' :: rest'))
          = '[' :: (inner ++ ']' :: inner') ++ ']' :: rest' := by
        simp
      rw [hsplit]
      exact .one (.pair first second) others

/-! ### What passes -/

/-- Where a word passes with some branches open, its brackets close just these. -/
theorem closes_of_ok {index opened : Nat} {word : Word}
    (h : checkBranchesFrom index opened word = .ok ()) : Closes opened (brackets word) := by
  induction word generalizing index opened with
  | nil =>
    rw [checkBranchesFrom_nil] at h
    split at h
    · next hnone =>
      rw [hnone]
      exact .none .empty
    · cases h
  | cons symbol word ih =>
    by_cases hopen : symbol = '['
    · subst hopen
      exact (ih h).cons_open
    by_cases hclose : symbol = ']'
    · subst hclose
      cases opened with
      | zero => cases h
      | succ opened => exact .one .empty (ih h)
    · rw [checkBranchesFrom_other hopen hclose] at h
      rw [brackets_other hopen hclose]
      exact ih h

/-- Whether a word passes depends on its brackets only. -/
theorem checkBranchesFrom_brackets (index index' opened : Nat) (word : Word) :
    checkBranchesFrom index opened (brackets word) = .ok () ↔
      checkBranchesFrom index' opened word = .ok () := by
  induction word generalizing index index' opened with
  | nil => rfl
  | cons symbol word ih =>
    by_cases hopen : symbol = '['
    · subst hopen
      exact ih (index + 1) (index' + 1) (opened + 1)
    by_cases hclose : symbol = ']'
    · subst hclose
      cases opened with
      | zero =>
        -- both stop here, each with an index of its own
        refine iff_of_false (fun h => ?_) (fun h => ?_)
        · cases h
        · cases h
      | succ opened => exact ih (index + 1) (index' + 1) opened
    · rw [brackets_other hopen hclose, checkBranchesFrom_other hopen hclose]
      exact ih index (index' + 1) opened

theorem Dyck.checkBranches_eq_ok {word : Word} (h : Dyck word) : checkBranches word = .ok () := by
  induction h with
  | empty => rfl
  | @pair inner rest first second hinner hrest =>
    rw [checkBranches, checkBranchesFrom_open, checkBranchesFrom_append_of_ok hinner,
      checkBranchesFrom_close_succ]
    rw [checkBranches, checkBranchesFrom_eq_ok_iff] at hrest
    exact checkBranchesFrom_eq_ok_iff.2 hrest

/-- A word passes exactly if its brackets have partners. -/
theorem checkBranches_eq_ok_iff_dyck {word : Word} :
    checkBranches word = .ok () ↔ Dyck (brackets word) := by
  constructor
  · intro h
    cases closes_of_ok h with
    | none last => exact last
  · intro h
    exact (checkBranchesFrom_brackets 0 0 0 word).1 h.checkBranches_eq_ok

/-! ### What is reported -/

/-- More closes than opens. -/
def Excess (front : Word) : Prop := front.count '[' < front.count ']'

instance (front : Word) : Decidable (Excess front) :=
  inferInstanceAs (Decidable (front.count '[' < front.count ']'))

/-- Behind a word no beginning of which has a close too many, the counter is the opens less the
closes. -/
theorem openAfter_of_no_excess {front : Word}
    (h : ∀ beginning, beginning <+: front → ¬ Excess beginning) :
    OpenAfter front (front.count '[' - front.count ']') := by
  induction front using List.reverseRecOn with
  | nil =>
    intro rest
    rfl
  | append_singleton front symbol ih =>
    intro rest
    have hprefix : front <+: front ++ [symbol] := List.prefix_append front [symbol]
    have hfront : front.count ']' ≤ front.count '[' := Nat.not_lt.1 (h front hprefix)
    have hwhole : (front ++ [symbol]).count ']' ≤ (front ++ [symbol]).count '[' :=
      Nat.not_lt.1 (h _ List.prefix_rfl)
    rw [List.append_assoc, List.singleton_append,
      ih (fun beginning hbeginning => h beginning (hbeginning.trans hprefix)) (symbol :: rest),
      List.length_append, List.length_singleton]
    rw [List.count_append, List.count_append] at hwhole ⊢
    by_cases hopen : symbol = '['
    · subst hopen
      rw [checkBranchesFrom_open, List.count_singleton_self,
        List.count_eq_zero_of_not_mem (by decide : ']' ∉ ['['])]
      congr 1
      omega
    by_cases hclose : symbol = ']'
    · subst hclose
      rw [List.count_singleton_self,
        List.count_eq_zero_of_not_mem (by decide : '[' ∉ [']'])] at hwhole ⊢
      -- the close takes the word no further than to its opens, so one of them is left for it
      obtain ⟨opened, hopened⟩ : ∃ opened, front.count '[' - front.count ']' = opened + 1 :=
        ⟨front.count '[' - front.count ']' - 1, by omega⟩
      rw [hopened, checkBranchesFrom_close_succ]
      congr 1
      omega
    · rw [checkBranchesFrom_other hopen hclose,
        List.count_eq_zero_of_not_mem (by simpa using Ne.symm hopen : '[' ∉ [symbol]),
        List.count_eq_zero_of_not_mem (by simpa using Ne.symm hclose : ']' ∉ [symbol])]
      rfl

/-- A symbol by which a word gets its first close too many is a close, with nothing open before
it. -/
theorem eq_close_of_excess {front : Word} {symbol : Char} (h : Excess (front ++ [symbol]))
    (hfront : ¬ Excess front) : symbol = ']' ∧ front.count '[' - front.count ']' = 0 := by
  rw [Excess, List.count_append, List.count_append] at h
  rw [Excess, Nat.not_lt] at hfront
  by_cases hclose : symbol = ']'
  · subst hclose
    rw [List.count_singleton_self] at h
    exact ⟨rfl, by omega⟩
  · rw [List.count_eq_zero_of_not_mem (by simpa using Ne.symm hclose : ']' ∉ [symbol])] at h
    omega

/-- The indices of the symbols behind which there has been a close too many. -/
def excessIndices (word : Word) : Set Nat := {i | i < word.length ∧ Excess (word.take (i + 1))}

/-- A beginning with a close too many ends with such a symbol. -/
theorem mem_excessIndices {front word : Word} (hbegins : front <+: word) (h : Excess front) :
    front.length - 1 ∈ excessIndices word ∧ 0 < front.length := by
  have hpos : 0 < front.length := by
    rcases front.eq_nil_or_concat with rfl | ⟨_, _, rfl⟩
    · exact absurd h (by decide)
    · simp
  have hle := hbegins.length_le
  refine ⟨⟨by omega, ?_⟩, hpos⟩
  rw [Nat.sub_add_cancel hpos, ← List.prefix_iff_eq_take.1 hbegins]
  exact h

/-- **A close too many.**  The first symbol behind which there is one is reported. -/
theorem checkBranches_of_isLeast {word : Word} {i : Nat} (h : IsLeast (excessIndices word) i) :
    checkBranches word = .error (.grammar (.unmatchedClose i)) := by
  obtain ⟨⟨hlength, hexcess⟩, hleast⟩ := h
  have hfront : ∀ beginning, beginning <+: word.take i → ¬ Excess beginning := by
    intro beginning hprefix hbeginning
    obtain ⟨hword, hshort⟩ := List.prefix_take_iff.1 hprefix
    obtain ⟨hmem, hpos⟩ := mem_excessIndices hword hbeginning
    have hle := hleast hmem
    omega
  rw [List.take_succ_eq_append_getElem hlength] at hexcess
  obtain ⟨hclose, hnone⟩ := eq_close_of_excess hexcess (hfront _ List.prefix_rfl)
  have hword : word = word.take i ++ ']' :: word.drop (i + 1) := by
    rw [← hclose, ← List.drop_eq_getElem_cons hlength, List.take_append_drop]
  have hbehind := openAfter_of_no_excess hfront (']' :: word.drop (i + 1))
  rw [← hword, hnone, checkBranchesFrom_close_zero, List.length_take_of_le hlength.le] at hbehind
  exact hbehind

/-- **Opens left over.**  With no close too many anywhere, what is reported is how many opens there
are more than closes. -/
theorem checkBranches_of_no_excess {word : Word}
    (h : ∀ front, front <+: word → ¬ Excess front) (hleft : word.count ']' < word.count '[') :
    checkBranches word
      = .error (.grammar (.unclosedOpens (word.count '[' - word.count ']'))) := by
  have hend := openAfter_of_no_excess h []
  rw [List.append_nil] at hend
  rw [hend, checkBranchesFrom_nil, if_neg (by omega)]

/-- **The check decides the language of brackets.**  A word passes exactly if its brackets, all else
left out, are a word of the language.  If some beginning has more closes than opens, the report
names the least index such that the beginning which ends with this symbol does.  Otherwise, if
brackets stay open, it gives the number of opens less the number of closes. -/
theorem checkBranches_decides_dyck (word : Word) :
    (checkBranches word = .ok () ↔ Dyck (brackets word)) ∧
    ((∃ front, front <+: word ∧ Excess front) →
      ∃ i, IsLeast (excessIndices word) i ∧
        checkBranches word = .error (.grammar (.unmatchedClose i))) ∧
    ((∀ front, front <+: word → ¬ Excess front) → word.count ']' < word.count '[' →
      checkBranches word
        = .error (.grammar (.unclosedOpens (word.count '[' - word.count ']')))) := by
  refine ⟨checkBranches_eq_ok_iff_dyck, ?_, checkBranches_of_no_excess⟩
  rintro ⟨front, hprefix, hexcess⟩
  have hsome : ∃ i, i ∈ excessIndices word := ⟨_, (mem_excessIndices hprefix hexcess).1⟩
  classical
  have hleast : IsLeast (excessIndices word) (Nat.find hsome) :=
    ⟨Nat.find_spec hsome, fun _ hj => Nat.find_min' hsome hj⟩
  exact ⟨_, hleast, checkBranches_of_isLeast hleast⟩

/-- Indices count characters, of any length. -/
example : checkBranches "é[→]]F[".toList = .error (.grammar (.unmatchedClose 4)) := by rfl

end Camouflage
