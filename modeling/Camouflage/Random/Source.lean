/-
Camouflage/Random/Source.lean

Random words and draws from whole-number ranges.

A source of random words is a value that gives a word and the source that is
left; nothing is hidden, so what a computation drew is what separates the source
it got from the one it returns.

A draw below `n` multiplies a word by `n` and keeps the upper half of the
product, provided that the lower half is small enough for all results to be
equally likely; otherwise it draws again.  The bound on repeated draws is never
met in practice, and when it is the last word is taken as it is: the result is
below `n` in every case, which is why it has the type `Fin n`.
-/
import Camouflage.Number.Scalar

namespace Camouflage

/-- A source of random words. -/
class RandomSource (σ : Type) where
  next32 : σ → UInt32 × σ
  next64 : σ → UInt64 × σ

/-- The two sizes of random words. -/
inductive WordSize
  | short
  | long

namespace WordSize

/-- The number of bits of a word. -/
def bits : WordSize → Nat
  | short => 32
  | long => 64

/-- The number of different words. -/
def count : WordSize → Nat
  | short => UInt32.size
  | long => UInt64.size

end WordSize

namespace Random

variable {σ : Type} [RandomSource σ]

/-- The next word of a size, as a number. -/
def nextWord (size : WordSize) (s : σ) : Fin size.count × σ :=
  match size with
  | .short => let (w, s) := RandomSource.next32 s; (⟨w.toNat, w.toNat_lt⟩, s)
  | .long => let (w, s) := RandomSource.next64 s; (⟨w.toNat, w.toNat_lt⟩, s)

/-- The upper part of the product of a word and a range. -/
def scaleDown {size : WordSize} (v : Fin size.count) {n : Nat} (positive : 0 < n) : Fin n :=
  ⟨v.val * n / size.count,
    Nat.div_lt_of_lt_mul (Nat.mul_lt_mul_of_pos_right v.isLt positive)⟩

/-- Whether the lower part of the product is in the accepted zone. -/
def accepted {size : WordSize} (v : Fin size.count) (n : Nat) : Bool :=
  v.val * n % size.count < n <<< (size.bits - (n.log2 + 1))

/-- Draws below `n`, again for at most `redraws` words that are not accepted. -/
def drawWithin (size : WordSize) {n : Nat} (positive : 0 < n) : Nat → σ → Fin n × σ
  | 0, s =>
    let (v, s) := nextWord size s
    (scaleDown v positive, s)
  | redraws + 1, s =>
    let (v, s) := nextWord size s
    if accepted v n then (scaleDown v positive, s) else drawWithin size positive redraws s

/-- How many words one draw may refuse. -/
def redrawLimit : Nat := 256

/-- A uniform number below `n`. -/
def drawBelow (size : WordSize) {n : Nat} (positive : 0 < n) (s : σ) : Fin n × σ :=
  drawWithin size positive redrawLimit s

/-! ### Draws of scalars -/

variable {α : Type} [Scalar α] [Sampling α]

/-- A number between two bounds, both included, from one word. -/
def drawBetween (low high : α) (s : σ) : α × σ :=
  let (w, s) := RandomSource.next64 s
  (Sampling.between low high w, s)

/-- A number from `low` on and below `high`, again for at most `redraws` words that miss. -/
def drawUpToWithin (low high : α) : Nat → σ → α × σ
  | 0, s => (low, s)
  | redraws + 1, s =>
    let (w, s) := RandomSource.next64 s
    let x := Sampling.upTo low high w
    if Scalar.less x high then (x, s) else drawUpToWithin low high redraws s

/-- A number from `low` on and below `high`. -/
def drawUpTo (low high : α) (s : σ) : α × σ := drawUpToWithin low high redrawLimit s

/-- A number at most `deviation` away from zero.  One word is used up whatever the deviation. -/
def jitter (deviation : α) (s : σ) : α × σ :=
  let d := Sampling.halfWidth (Scalar.abs deviation)
  drawBetween (-d) d s

end Random

end Camouflage
