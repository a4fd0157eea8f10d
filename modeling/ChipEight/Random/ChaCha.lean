import ChipEight.Random

/-!
# The ChaCha source

A stream of 32-bit words made by the ChaCha permutation with twelve rounds.
The state of the permutation is sixteen words: four constants, eight words of
key, a block counter of 64 bits in two words, and two words that stay zero.  A
block of output is the permuted state added to the state word by word, and its
sixteen words are given out in order before the next block is made.

The key is expanded from a seed of 64 bits by a linear congruential generator
whose outputs are shifted and rotated.
-/

namespace ChipEight

/-- The sixteen words of a ChaCha state or block. -/
abbrev ChaChaBlock := Vector UInt32 16

namespace ChaChaBlock

/-- Rotate a word to the left by less than its width. -/
def rotateLeft (word amount : UInt32) : UInt32 :=
  word <<< amount ||| word >>> (32 - amount)

/-- Mix four words of a block. -/
def quarterRound (block : ChaChaBlock) (a b c d : Fin 16) : ChaChaBlock :=
  let va := block[a]
  let vb := block[b]
  let vc := block[c]
  let vd := block[d]
  let va := va + vb
  let vd := rotateLeft (vd ^^^ va) 16
  let vc := vc + vd
  let vb := rotateLeft (vb ^^^ vc) 12
  let va := va + vb
  let vd := rotateLeft (vd ^^^ va) 8
  let vc := vc + vd
  let vb := rotateLeft (vb ^^^ vc) 7
  (((block.set a va).set b vb).set c vc).set d vd

/-- Mix the columns and then the diagonals of a block. -/
def doubleRound (block : ChaChaBlock) : ChaChaBlock :=
  let block := quarterRound block 0 4 8 12
  let block := quarterRound block 1 5 9 13
  let block := quarterRound block 2 6 10 14
  let block := quarterRound block 3 7 11 15
  let block := quarterRound block 0 5 10 15
  let block := quarterRound block 1 6 11 12
  let block := quarterRound block 2 7 8 13
  quarterRound block 3 4 9 14

/-- The block of output that belongs to a state: twelve rounds, then the state
is added. -/
def output (state : ChaChaBlock) : ChaChaBlock :=
  Vector.zipWith (· + ·) state (Nat.repeat doubleRound 6 state)

end ChaChaBlock

/-- A ChaCha stream and how much of it has been given out. -/
structure ChaChaSource where
  /-- The eight words of the key. -/
  key : Vector UInt32 8
  /-- The number of the block after the current one. -/
  counter : UInt64
  /-- What is left of the current block. -/
  pending : List UInt32
deriving DecidableEq

namespace ChaChaSource

/-- The state of the permutation for one block. -/
def state (key : Vector UInt32 8) (counter : UInt64) : ChaChaBlock :=
  #v[0x61707865, 0x3320646e, 0x79622d32, 0x6b206574,
     key[0], key[1], key[2], key[3], key[4], key[5], key[6], key[7],
     counter.toUInt32, (counter >>> 32).toUInt32, 0, 0]

/-- One step of the generator that expands a seed: the mixed state, rotated to
the right by its five highest bits. -/
def expand (seed : UInt64) : UInt32 × UInt64 :=
  let seed := seed * 6364136223846793005 + 11634580027462260723
  let mixed := (((seed >>> 18) ^^^ seed) >>> 27).toUInt32
  let amount := (seed >>> 59).toUInt32
  (mixed >>> amount ||| mixed <<< (32 - amount), seed)

/-- The first `count` words that a seed expands to. -/
def expandWords (seed : UInt64) : Nat → List UInt32
  | 0 => []
  | count + 1 =>
    let (word, seed) := expand seed
    word :: expandWords seed count

theorem length_expandWords (seed : UInt64) (count : Nat) :
    (expandWords seed count).length = count := by
  induction count generalizing seed with
  | zero => rfl
  | succ count ih => simp [expandWords, ih]

/-- The stream of a seed, from its beginning. -/
def ofSeed (seed : UInt64) : ChaChaSource where
  key := ⟨(expandWords seed 8).toArray, by simp [length_expandWords]⟩
  counter := 0
  pending := []

/-- The next word of the stream. -/
def next (source : ChaChaSource) : UInt32 × ChaChaSource :=
  match source.pending with
  | word :: rest => (word, { source with pending := rest })
  | [] =>
    let block := ChaChaBlock.output (state source.key source.counter)
    (block[0], { source with
      counter := source.counter + 1
      pending := block.toList.tail })

instance : RandomSource ChaChaSource :=
  ⟨next⟩

end ChaChaSource

/-- A source of either kind. -/
inductive Noise where
  /-- A counter. -/
  | counting (source : CountingSource)
  /-- A ChaCha stream. -/
  | chaCha (source : ChaChaSource)
deriving DecidableEq

namespace Noise

/-- The stream of a seed. -/
def ofSeed (seed : UInt64) : Noise :=
  .chaCha (ChaChaSource.ofSeed seed)

/-- Draw from whichever source it is. -/
def next : Noise → UInt32 × Noise
  | .counting source =>
    let (word, after) := source.next
    (word, .counting after)
  | .chaCha source =>
    let (word, after) := source.next
    (word, .chaCha after)

instance : RandomSource Noise :=
  ⟨next⟩

end Noise
end ChipEight
