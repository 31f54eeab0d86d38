/-
Camouflage/Random/ChaCha.lean

The random stream of a pattern: the ChaCha keystream of twelve rounds.  A seed
is stretched to a key of eight words; block `i` of the stream is the cipher's
block for counter `i` and nonce zero.  Words are used in order, and a 64-bit
word is two words, the lower half first.
-/
import Camouflage.Random.Source

namespace Camouflage

namespace ChaCha

/-- Sixteen words: the state of the cipher, or a block of the stream. -/
abbrev Block := Vector UInt32 16

/-- Rotates the bits of a word to the left. -/
def rotateLeft (x : UInt32) (n : UInt32) : UInt32 := (x <<< n) ||| (x >>> (32 - n))

/-- The quarter round on four words of a block. -/
def quarterRound (s : Block) (a b c d : Fin 16) : Block :=
  let x := s[a]; let y := s[b]; let z := s[c]; let w := s[d]
  let x := x + y; let w := rotateLeft (w ^^^ x) 16
  let z := z + w; let y := rotateLeft (y ^^^ z) 12
  let x := x + y; let w := rotateLeft (w ^^^ x) 8
  let z := z + w; let y := rotateLeft (y ^^^ z) 7
  (((s.set a x).set b y).set c z).set d w

/-- One round over the columns and one over the diagonals. -/
def doubleRound (s : Block) : Block :=
  let s := quarterRound s 0 4 8 12
  let s := quarterRound s 1 5 9 13
  let s := quarterRound s 2 6 10 14
  let s := quarterRound s 3 7 11 15
  let s := quarterRound s 0 5 10 15
  let s := quarterRound s 1 6 11 12
  let s := quarterRound s 2 7 8 13
  quarterRound s 3 4 9 14

/-- The state before the rounds: constants, key, counter, nonce zero. -/
def initial (key : Vector UInt32 8) (counter : UInt64) : Block :=
  #v[0x61707865, 0x3320646e, 0x79622d32, 0x6b206574,
     key[0], key[1], key[2], key[3], key[4], key[5], key[6], key[7],
     counter.toUInt32, (counter >>> 32).toUInt32, 0, 0]

/-- A block of the keystream: six double rounds, added to the initial state. -/
def block (key : Vector UInt32 8) (counter : UInt64) : Block :=
  let start := initial key counter
  (Nat.repeat doubleRound 6 start).zipWith (· + ·) start

end ChaCha

/-- A place in a keystream: the words of the current block from `used` on come next. -/
structure Keystream where
  key : Vector UInt32 8
  /-- the counter of the block after the current one -/
  counter : UInt64
  current : ChaCha.Block
  used : Nat

namespace Keystream

/-! ### Seeding -/

/-- One step of the generator that stretches a seed. -/
def stretchStep (state : UInt64) : UInt64 := state * 6364136223846793005 + 11634580027462260723

/-- The word that a state of that generator stands for. -/
def stretchWord (state : UInt64) : UInt32 :=
  let x := (((state >>> 18) ^^^ state) >>> 27).toUInt32
  let r := (state >>> 59).toUInt32
  (x >>> r) ||| (x <<< (32 - r))

/-- The key of a seed: the words of the first eight states after it. -/
def keyOfSeed (seed : UInt64) : Vector UInt32 8 :=
  Vector.ofFn fun i => stretchWord (Nat.repeat stretchStep (i.val + 1) seed)

/-- The stream of a seed, at its beginning. -/
def ofSeed (seed : UInt64) : Keystream :=
  { key := keyOfSeed seed, counter := 0, current := Vector.replicate 16 0, used := 16 }

/-! ### Reading -/

/-- The next word. -/
def next32 (s : Keystream) : UInt32 × Keystream :=
  if h : s.used < 16 then (s.current[s.used], { s with used := s.used + 1 })
  else
    let current := ChaCha.block s.key s.counter
    (current[0], { s with counter := s.counter + 1, current := current, used := 1 })

/-- The next two words, the lower half first. -/
def next64 (s : Keystream) : UInt64 × Keystream :=
  let (low, s) := s.next32
  let (high, s) := s.next32
  ((high.toUInt64 <<< 32) ||| low.toUInt64, s)

end Keystream

instance : RandomSource Keystream where
  next32 := Keystream.next32
  next64 := Keystream.next64

end Camouflage
