import Mathlib
import ChipEight.Proofs.Loose.Machine
import ChipEight.Proofs.Memory

/-!
# Last writes

Addresses have 64 bits and memory has 4096 places, so that many addresses share a place.
After any writes, to any addresses, an address shows the value of the last write to its
place, and the byte that was there at the start if nothing has been written to it.  Nothing
beside memory changes (`holdsLastWrites`).

A write is seen at the addresses that share its place and at no others
(`read_writeByte`).  So the writes behind the last one to a place leave it alone
(`read_writeBytes_of_untouched`, by induction on them), and so do all writes if none goes
there.

An address is reduced by a remainder here.  On plain arrays it is masked instead, for a
write as for a read, and the same bytes are written and seen.
-/

namespace ChipEight

open Memory (SameAddress)

/-- A byte for an address of 64 bits. -/
structure MemoryWrite where
  address : UInt64
  value : UInt8
deriving DecidableEq

namespace MemoryWrite

/-- Of the writes of a list, `write` is the last to the place of an address. -/
def IsLastAt (address : UInt64) (writes : List MemoryWrite) (write : MemoryWrite) : Prop :=
  ∃ earlier later, writes = earlier ++ write :: later ∧
    SameAddress write.address.toNat address.toNat ∧
    ∀ other ∈ later, ¬ SameAddress other.address.toNat address.toNat

/-- A place to which something is written has a last write. -/
theorem exists_isLastAt {address : UInt64} {writes : List MemoryWrite} {write : MemoryWrite}
    (hmem : write ∈ writes) (hsame : SameAddress write.address.toNat address.toNat) :
    ∃ last, IsLastAt address writes last := by
  induction writes generalizing write with
  | nil => contradiction
  | cons first rest ih =>
      -- The last write of the rest is the last of all, and without one it is the first.
      by_cases hlater : ∃ other ∈ rest, SameAddress other.address.toNat address.toNat
      · obtain ⟨other, hother, hsame⟩ := hlater
        obtain ⟨last, earlier, later, rfl, hlast⟩ := ih hother hsame
        exact ⟨last, first :: earlier, later, rfl, hlast⟩
      · have huntouched : ∀ other ∈ rest, ¬ SameAddress other.address.toNat address.toNat :=
          fun other hother hsame => hlater ⟨other, hother, hsame⟩
        rcases List.mem_cons.mp hmem with rfl | hrest
        · exact ⟨write, [], rest, rfl, hsame, huntouched⟩
        · exact absurd hsame (huntouched write hrest)

end MemoryWrite

open MemoryWrite

/-! ## Machines -/

namespace Machine

/-- Write a byte to memory. -/
def writeByte (machine : Machine) (write : MemoryWrite) : Machine :=
  { machine with memory := machine.memory.write write.address.toNat write.value }

/-- Write bytes to memory, one after the other. -/
def writeBytes (machine : Machine) (writes : List MemoryWrite) : Machine :=
  writes.foldl writeByte machine

variable (machine : Machine) {address : UInt64} {writes : List MemoryWrite}

theorem read_writeByte (write : MemoryWrite) :
    (machine.writeByte write).memory.read address.toNat =
      if write.address.toNat % 4096 = address.toNat % 4096 then write.value
      else machine.memory.read address.toNat :=
  machine.memory.read_write _ _ _

theorem writeBytes_append (first second : List MemoryWrite) :
    machine.writeBytes (first ++ second) = (machine.writeBytes first).writeBytes second :=
  List.foldl_append

/-- Only memory depends on what is written. -/
theorem writeBytes_cases (writes : List MemoryWrite) :
    ∃ memory, machine.writeBytes writes = { machine with memory } := by
  induction writes generalizing machine with
  | nil => exact ⟨machine.memory, rfl⟩
  | cons write rest ih => exact ih (machine.writeByte write)

/-- Writes to other places leave a place alone. -/
theorem read_writeBytes_of_untouched
    (huntouched : ∀ write ∈ writes, ¬ SameAddress write.address.toNat address.toNat) :
    (machine.writeBytes writes).memory.read address.toNat =
      machine.memory.read address.toNat := by
  induction writes generalizing machine with
  | nil => rfl
  | cons write rest ih =>
      obtain ⟨hfirst, hrest⟩ := List.forall_mem_cons.mp huntouched
      calc (machine.writeBytes (write :: rest)).memory.read address.toNat
        _ = (machine.writeByte write).memory.read address.toNat :=
          ih (machine.writeByte write) hrest
        _ = machine.memory.read address.toNat := by
          rw [read_writeByte]
          exact if_neg hfirst

/-- What is written before and behind the last write to a place does not matter. -/
theorem read_writeBytes_of_isLastAt {write : MemoryWrite}
    (hlast : IsLastAt address writes write) :
    (machine.writeBytes writes).memory.read address.toNat = write.value := by
  obtain ⟨earlier, later, rfl, hsame, huntouched⟩ := hlast
  have hlater := ((machine.writeBytes earlier).writeByte write).read_writeBytes_of_untouched
    huntouched
  rw [writeBytes_append]
  refine hlater.trans ?_
  rw [read_writeByte]
  exact if_pos hsame

theorem read_writeBytes_of_not_exists (hnone : ¬ ∃ write, IsLastAt address writes write) :
    (machine.writeBytes writes).memory.read address.toNat =
      machine.memory.read address.toNat :=
  machine.read_writeBytes_of_untouched fun _ hmem hsame => hnone (exists_isLastAt hmem hsame)

end Machine

/-! ## Plain arrays -/

/-- Write bytes to masked addresses of an array. -/
def LooseMachine.writeBytes? (loose : LooseMachine) (writes : List MemoryWrite) :
    Option LooseMachine :=
  writes.foldlM (fun loose write => loose.write? write.address.toNat write.value) loose

theorem Machine.writeBytes?_loose (machine : Machine) (writes : List MemoryWrite) :
    machine.loose.writeBytes? writes = some (machine.writeBytes writes).loose :=
  Loose.foldlM_eq_some (fun machine write _ => machine.write?_loose _ write.value) machine

/-! ## The law of memory -/

/-- What is promised about the machine after any writes to memory. -/
structure HoldsLastWrites (machine : Machine) (writes : List MemoryWrite) : Prop where
  written : ∀ address write, IsLastAt address writes write →
    (machine.writeBytes writes).memory.read address.toNat = write.value
  kept : ∀ address, (¬ ∃ write, IsLastAt address writes write) →
    (machine.writeBytes writes).memory.read address.toNat =
      machine.memory.cells[address.toNat % 4096]
  period : ∀ first second : UInt64, first.toNat % 4096 = second.toNat % 4096 →
    (machine.writeBytes writes).memory.read first.toNat =
      (machine.writeBytes writes).memory.read second.toNat
  /-- Nothing but memory changes. -/
  beside : ∃ memory, machine.writeBytes writes = { machine with memory }
  /-- With masked addresses the writes have the same result. -/
  maskedWrites : machine.loose.writeBytes? writes = some (machine.writeBytes writes).loose
  /-- With a masked address the same byte is seen. -/
  maskedRead : ∀ address : UInt64, (machine.writeBytes writes).loose.read? address.toNat =
    some ((machine.writeBytes writes).memory.read address.toNat)

namespace Machine

/-- In every state, memory shows the last write to each of its places, whatever addresses
are written and read. -/
theorem holdsLastWrites (machine : Machine) (writes : List MemoryWrite) :
    HoldsLastWrites machine writes where
  written _ _ hlast := machine.read_writeBytes_of_isLastAt hlast
  kept _ hnone := machine.read_writeBytes_of_not_exists hnone
  period _ _ hsame := SameAddress.read hsame _
  beside := machine.writeBytes_cases writes
  maskedWrites := machine.writeBytes?_loose writes
  maskedRead address := read?_loose _ address.toNat

/-- The second write goes to the place of the first, from the far end of the addresses, and
the third to another place. -/
example :
    let after := initial.writeBytes [⟨0xFFF, 1⟩, ⟨0xFFFFFFFFFFFFFFFF, 2⟩, ⟨0x1005, 3⟩]
    after.memory.read 0x1FFF = 2 ∧ after.memory.read 0x2005 = 3 ∧
      after.memory.read 0 = 0xF0 := by
  decide +kernel

end Machine
end ChipEight
