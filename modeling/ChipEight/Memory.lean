/-!
# Memory

The machine has 4096 bytes of memory.  Every address is reduced modulo the
size of memory at the moment of use, so that reading and writing are total and
memory has period 4096 in its address.  The first 80 bytes hold the built-in
font after a reset, programs start at address 512, and the last byte of memory
never belongs to a program.
-/

namespace ChipEight

/-- Number of bytes of memory. -/
def memorySize : Nat := 4096

/-- Address at which programs are loaded and started. -/
def programStart : Nat := 512

/-- Largest accepted program: the last byte of memory stays out of reach. -/
def programLimit : Nat := memorySize - programStart - 1

/-- The contents of memory. -/
structure Memory where
  /-- One byte for each address. -/
  cells : Vector UInt8 4096
deriving DecidableEq

namespace Memory

/-- Memory in which every byte is zero. -/
def zero : Memory :=
  ⟨Vector.replicate 4096 0⟩

/-- The byte at an address, reduced modulo the size of memory. -/
def read (memory : Memory) (address : Nat) : UInt8 :=
  memory.cells[address % 4096]

/-- Replace the byte at an address, reduced modulo the size of memory. -/
def write (memory : Memory) (address : Nat) (value : UInt8) : Memory :=
  ⟨memory.cells.set (address % 4096) value⟩

/-- Write bytes to consecutive addresses, the first to `address`. -/
def writeAll (memory : Memory) (address : Nat) : List UInt8 → Memory
  | [] => memory
  | value :: rest => (memory.write address value).writeAll (address + 1) rest

/-- The bytes at `count` consecutive addresses, the first at `address`. -/
def readAll (memory : Memory) (address count : Nat) : List UInt8 :=
  (List.range count).map fun offset => memory.read (address + offset)

/-- All bytes of memory in the order of their addresses. -/
def toList (memory : Memory) : List UInt8 :=
  memory.cells.toList

theorem length_toList (memory : Memory) : memory.toList.length = 4096 := by
  simp [toList]

/-- Reading has the period of memory. -/
theorem read_mod (memory : Memory) (address : Nat) :
    memory.read (address % 4096) = memory.read address := by
  simp [read]

/-- Writing has the period of memory. -/
theorem write_mod (memory : Memory) (address : Nat) (value : UInt8) :
    memory.write (address % 4096) value = memory.write address value := by
  simp [write]

/-- A read sees the byte just written exactly when the addresses are
congruent. -/
theorem read_write (memory : Memory) (address other : Nat) (value : UInt8) :
    (memory.write address value).read other =
      if address % 4096 = other % 4096 then value else memory.read other := by
  simp [read, write, Vector.getElem_set]

/-! ## The font -/

/-- Number of rows, and so of bytes, of a glyph. -/
def glyphHeight : Nat := 5

/-- Glyphs of the sixteen hexadecimal digits, five rows each, without gaps. -/
def font : List UInt8 :=
  [0xF0, 0x90, 0x90, 0x90, 0xF0,
   0x20, 0x60, 0x20, 0x20, 0x70,
   0xF0, 0x10, 0xF0, 0x80, 0xF0,
   0xF0, 0x10, 0xF0, 0x10, 0xF0,
   0x90, 0x90, 0xF0, 0x10, 0x10,
   0xF0, 0x80, 0xF0, 0x10, 0xF0,
   0xF0, 0x80, 0xF0, 0x90, 0xF0,
   0xF0, 0x10, 0x20, 0x40, 0x40,
   0xF0, 0x90, 0xF0, 0x90, 0xF0,
   0xF0, 0x90, 0xF0, 0x10, 0xF0,
   0xF0, 0x90, 0xF0, 0x90, 0x90,
   0xE0, 0x90, 0xE0, 0x90, 0xE0,
   0xF0, 0x80, 0x80, 0x80, 0xF0,
   0xE0, 0x90, 0x90, 0x90, 0xE0,
   0xF0, 0x80, 0xF0, 0x80, 0xF0,
   0xF0, 0x80, 0xF0, 0x80, 0x80]

theorem length_font : font.length = 16 * glyphHeight := by
  decide

/-- Memory after a reset: the font from address zero, and zeros. -/
def initial : Memory :=
  zero.writeAll 0 font

end Memory
end ChipEight
