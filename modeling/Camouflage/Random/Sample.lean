/-
Camouflage/Random/Sample.lean

Samples without repetition.  `sampleIndices` draws `n` different numbers below
`length`, in random order, by one of two methods:

* an in-place shuffle of all the numbers that stops after `n` steps, for large
  samples and for those that are a good part of the whole,
* Floyd's method otherwise, which draws one number for each element of the
  sample and replaces a repeated number by one that cannot have been drawn.

Floyd's method leaves some orders out; a small sample gets its order while it is
built, a larger one is shuffled afterwards.

A third method is left out, which draws numbers and throws repeated ones away.  It
is for samples of 163 or more out of a pool that is many times larger, at least 270
times, or about 37 times if the pool has 500000 elements or more; here the in-place
shuffle serves these as well.  For smaller samples a pool of that size makes no
difference: they are drawn by Floyd's method on either side of the bound.
-/
import Camouflage.Random.Source

namespace Camouflage.Random

variable {σ : Type} [RandomSource σ]

/-- Whether a sample of `n` out of `length` is drawn by the in-place shuffle. -/
def samplesInPlace (length n : Nat) : Bool :=
  163 ≤ n || (11 < n && 5 * length < (50 + 8 * n) * n)

/-! ### In-place shuffle -/

/-- Puts a random element of those from `i` on at position `i`, for `steps` positions. -/
def shuffleFront (numbers : Array Nat) (i : Nat) : Nat → σ → Array Nat × σ
  | 0, s => (numbers, s)
  | steps + 1, s =>
    if h : 0 < numbers.size - i then
      let (k, s) := drawBelow .short h s
      shuffleFront (numbers.swapIfInBounds i (i + k)) (i + 1) steps s
    else (numbers, s)

/-- A sample by the in-place shuffle. -/
def sampleInPlace (length n : Nat) (s : σ) : List Nat × σ :=
  let (numbers, s) := shuffleFront (Array.range length) 0 n s
  (numbers.toList.take n, s)

/-! ### Floyd's method -/

/-- Adds a drawn number to a sample that keeps its order: `top`, which cannot be there yet, stands
in for a number that is. -/
def addOrdered (sample : List Nat) (drawn top : Nat) : List Nat :=
  match sample.idxOf? drawn with
  | some position => sample.insertIdx position top
  | none => sample ++ [drawn]

/-- Adds a drawn number to a sample whose order comes later. -/
def addUnordered (sample : List Nat) (drawn top : Nat) : List Nat :=
  if drawn ∈ sample then sample ++ [top] else sample ++ [drawn]

/-- Floyd's method: one number at most `top` for every `top` of `steps` successive ones. -/
def floyd (add : List Nat → Nat → Nat → List Nat) (sample : List Nat) (top : Nat) :
    Nat → σ → List Nat × σ
  | 0, s => (sample, s)
  | steps + 1, s =>
    let (drawn, s) := drawBelow .short (Nat.succ_pos top) s
    floyd add (add sample drawn top) (top + 1) steps s

/-- Shuffles the positions up to and including `i`, from the last one down. -/
def shuffleDown (numbers : Array Nat) : Nat → σ → Array Nat × σ
  | 0, s => (numbers, s)
  | i + 1, s =>
    let (k, s) := drawBelow .short (Nat.succ_pos (i + 1)) s
    shuffleDown (numbers.swapIfInBounds (i + 1) k) i s

/-- A sample by Floyd's method. -/
def sampleByFloyd (length n : Nat) (s : σ) : List Nat × σ :=
  if n < 50 then floyd addOrdered [] (length - n) n s
  else
    let (sample, s) := floyd addUnordered [] (length - n) n s
    let (numbers, s) := shuffleDown sample.toArray (n - 1) s
    (numbers.toList, s)

/-! ### Samples -/

/-- `n` different numbers below `length`, for `n` at most `length`. -/
def sampleIndices (length n : Nat) (s : σ) : List Nat × σ :=
  if samplesInPlace length n then sampleInPlace length n s else sampleByFloyd length n s

/-- `n` elements at different positions of a list of at least `n`. -/
def sample {α : Type} (pool : List α) (n : Nat) (s : σ) : List α × σ :=
  let (indices, s) := sampleIndices pool.length n s
  let elements := pool.toArray
  (indices.filterMap fun i => elements[i]?, s)

/-- One element of a list, if it has any. -/
def choose {α : Type} (pool : List α) (s : σ) : Option (α × σ) :=
  if h : 0 < pool.length then
    let (i, s) := drawBelow .short h s
    some (pool[i], s)
  else none

end Camouflage.Random
