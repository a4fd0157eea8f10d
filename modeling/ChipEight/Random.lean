/-!
# Random sources

A random source is a state from which words of 32 bits are drawn, one after the
other.  Drawing is a function of the state, so a source can be replayed, and
two sources of different kinds can be compared by their outputs.

The counting source gives the low half of a 64-bit counter that grows by a
fixed increment.
-/

namespace ChipEight

/-- States from which words can be drawn. -/
class RandomSource (σ : Type) where
  /-- The next word, and the state after it. -/
  next : σ → UInt32 × σ

namespace RandomSource

/-- The low byte of the next word, and the state after it. -/
def nextByte {σ : Type} [RandomSource σ] (source : σ) : UInt8 × σ :=
  let (word, after) := next source
  (word.toUInt8, after)

/-- The state after `count` draws. -/
def after {σ : Type} [RandomSource σ] (source : σ) : Nat → σ
  | 0 => source
  | count + 1 => after (next source).2 count

/-- The word drawn after `count` others. -/
def output {σ : Type} [RandomSource σ] (source : σ) (count : Nat) : UInt32 :=
  (next (after source count)).1

end RandomSource

/-- A counter of 64 bits that wraps around. -/
structure CountingSource where
  /-- The counter; its low half is the next output. -/
  value : UInt64
  /-- What is added after each draw. -/
  increment : UInt64
deriving DecidableEq

namespace CountingSource

/-- The low half of the counter; then the counter grows. -/
def next (source : CountingSource) : UInt32 × CountingSource :=
  (source.value.toUInt32, { source with value := source.value + source.increment })

instance : RandomSource CountingSource :=
  ⟨next⟩

end CountingSource
end ChipEight
