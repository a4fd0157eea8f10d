import Mathlib.Tactic
import ChipEight.Memory

/-!
# Runs of bytes in memory

Reading and writing several bytes at once, as a function of the address.  Both
depend on the address modulo the size of memory only, wherever the run of bytes
wraps around.
-/

namespace ChipEight
namespace Memory

/-- Addresses with one place in memory. -/
def SameAddress (first second : Nat) : Prop :=
  first % 4096 = second % 4096

theorem SameAddress.add {first second : Nat} (hsame : SameAddress first second)
    (offset : Nat) : SameAddress (first + offset) (second + offset) := by
  unfold SameAddress at *
  omega

theorem SameAddress.read {first second : Nat} (hsame : SameAddress first second)
    (memory : Memory) : memory.read first = memory.read second := by
  rw [← read_mod, hsame, read_mod]

theorem SameAddress.write {first second : Nat} (hsame : SameAddress first second)
    (memory : Memory) (value : UInt8) :
    memory.write first value = memory.write second value := by
  rw [← write_mod, hsame, write_mod]

theorem SameAddress.readAll {first second : Nat} (hsame : SameAddress first second)
    (memory : Memory) (count : Nat) :
    memory.readAll first count = memory.readAll second count := by
  unfold Memory.readAll
  exact List.map_congr_left fun offset _ => (hsame.add offset).read memory

theorem SameAddress.writeAll {first second : Nat} (hsame : SameAddress first second)
    (memory : Memory) (values : List UInt8) :
    memory.writeAll first values = memory.writeAll second values := by
  induction values generalizing memory first second with
  | nil => rfl
  | cons value rest ih =>
      rw [Memory.writeAll, Memory.writeAll, hsame.write]
      exact ih (hsame.add 1) _

/-- Bytes are written one after the other. -/
theorem writeAll_append (memory : Memory) (address : Nat) (first second : List UInt8) :
    memory.writeAll address (first ++ second) =
      (memory.writeAll address first).writeAll (address + first.length) second := by
  induction first generalizing memory address with
  | nil => rfl
  | cons value rest ih =>
      rw [List.cons_append, writeAll, ih, writeAll, List.length_cons]
      congr 1
      omega

/-- Nothing is written outside the run of addresses of the bytes. -/
theorem read_writeAll_of_outside (memory : Memory) {address other : Nat} {values : List UInt8}
    (houtside : ∀ offset < values.length, ¬ SameAddress (address + offset) other) :
    (memory.writeAll address values).read other = memory.read other := by
  induction values generalizing memory address with
  | nil => rfl
  | cons value rest ih =>
      have hfirst : ¬ SameAddress address other :=
        houtside 0 (Nat.zero_lt_succ _)
      have hrest : ∀ offset < rest.length, ¬ SameAddress (address + 1 + offset) other := by
        intro offset hoffset
        rw [Nat.add_assoc, Nat.add_comm 1]
        exact houtside (offset + 1) (Nat.succ_lt_succ hoffset)
      rw [writeAll, ih _ hrest, read_write]
      exact if_neg hfirst

/-- A run of bytes that is not longer than memory does not overwrite itself, and
each of its bytes is read back. -/
theorem read_writeAll (memory : Memory) (address : Nat) {values : List UInt8}
    (hlength : values.length ≤ 4096) {offset : Nat} (hoffset : offset < values.length) :
    (memory.writeAll address values).read (address + offset) = values[offset] := by
  induction values generalizing memory address offset with
  | nil => contradiction
  | cons value rest ih =>
      rw [List.length_cons] at hlength hoffset
      cases offset with
      | zero =>
          -- The later bytes do not come round to the first address.
          have houtside : ∀ later < rest.length,
              ¬ SameAddress (address + 1 + later) (address + 0) := by
            intro later hlater
            unfold SameAddress
            omega
          rw [writeAll, read_writeAll_of_outside _ houtside, read_write]
          exact if_pos rfl
      | succ offset =>
          rw [writeAll, ← Nat.add_assoc, Nat.add_right_comm, List.getElem_cons_succ]
          exact ih _ _ (by omega) (by omega)

/-- Bytes that are in memory already change nothing when they are written. -/
theorem writeAll_of_read {memory : Memory} {address : Nat} {values : List UInt8}
    (hread : ∀ (offset : Nat) (hoffset : offset < values.length),
      memory.read (address + offset) = values[offset]) :
    memory.writeAll address values = memory := by
  induction values generalizing address with
  | nil => rfl
  | cons value rest ih =>
      have hvalue : memory.read address = value := hread 0 (Nat.zero_lt_succ _)
      have hfirst : memory.write address value = memory := by
        rw [← hvalue]
        simp [write, read]
      have hrest : ∀ (offset : Nat) (hoffset : offset < rest.length),
          memory.read (address + 1 + offset) = rest[offset] := by
        intro offset hoffset
        rw [Nat.add_right_comm]
        exact hread (offset + 1) (Nat.succ_lt_succ hoffset)
      rw [writeAll, hfirst, ih hrest]

end Memory
end ChipEight
