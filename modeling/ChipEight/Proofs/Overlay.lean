import Mathlib
import ChipEight.Proofs.Drawing

/-!
# Sprites over each other

A sprite toggles a pixel once for each of its rows that has a set bit there.  A sprite that
is higher than the screen comes to a row of the picture more than once, and then toggles the
same pixels again; so what counts is whether the number of hits is odd (`pixel_drawAt`).
This number depends on memory, which drawing leaves alone, and not on the picture.

Over a list of sprites the hits add up (`pixel_drawAll`).  A sum does not depend on the
order of its terms, and twice a sum is even: sprites may be drawn in any order, and all of
them drawn twice leave the picture as it was (`composesByHits`).
-/

namespace ChipEight

/-- A sprite in memory, and the column and row of its top left pixel. -/
structure Drawing where
  index : UInt16
  x : UInt8
  y : UInt8
  height : UInt8
deriving DecidableEq

/-! ## Hits -/

namespace Memory

/-- Whether a row of a sprite has a set bit at a pixel. -/
def hitsInRow (memory : Memory) (drawing : Drawing) (px py line : Nat) : Bool :=
  let column := stepsAround 64 drawing.x.toNat px
  decide ((drawing.y.toNat + line) % 32 = py) && decide (column < 8) &&
    (memory.read (drawing.index.toNat + line)).toNat.testBit (7 - column)

/-- How many rows of a sprite have a set bit at a pixel. -/
def hits (memory : Memory) (drawing : Drawing) (px py : Nat) : Nat :=
  (List.range drawing.height.toNat).countP (memory.hitsInRow drawing px py)

/-- How many rows of all sprites of a list have a set bit at a pixel. -/
def hitsOfAll (memory : Memory) (drawings : List Drawing) (px py : Nat) : Nat :=
  (drawings.map fun drawing => memory.hits drawing px py).sum

variable (memory : Memory) {px py : Nat}

@[simp]
theorem hitsOfAll_nil : memory.hitsOfAll [] px py = 0 :=
  rfl

@[simp]
theorem hitsOfAll_cons (drawing : Drawing) (rest : List Drawing) :
    memory.hitsOfAll (drawing :: rest) px py =
      memory.hits drawing px py + memory.hitsOfAll rest px py :=
  rfl

/-- The order of the sprites does not matter. -/
theorem hitsOfAll_perm {first second : List Drawing} (hperm : first.Perm second) :
    memory.hitsOfAll first px py = memory.hitsOfAll second px py :=
  (hperm.map _).sum_eq

variable (drawing : Drawing)

/-- The pixels of a row of a sprite. -/
def rowOf (line : Nat) : List (Nat × Nat) :=
  Screen.rowPixels (memory.read (drawing.index.toNat + line)) drawing.x.toNat
    (drawing.y.toNat + line)

/-- A row has a pixel at most once. -/
theorem count_rowOf (line : Nat) (hpx : px < 64) :
    (memory.rowOf drawing line).count (px, py) =
      if memory.hitsInRow drawing px py line then 1 else 0 := by
  rw [rowOf, (Screen.nodup_rowPixels _ _ _).count]
  refine if_congr ?_ rfl rfl
  rw [Screen.mem_rowPixels, Screen.getMsbD_spriteRow _ _ _ hpx, ← stepsAround_columns hpx]
  simp only [hitsInRow, Bool.and_eq_true, decide_eq_true_eq]
  constructor
  · rintro ⟨-, hrow, hcolumn, hbit⟩
    exact ⟨⟨hrow.symm, hcolumn⟩, hbit⟩
  · rintro ⟨⟨hrow, hcolumn⟩, hbit⟩
    exact ⟨hpx, hrow.symm, hcolumn, hbit⟩

theorem count_flatMap_rowOf (lines : List Nat) (hpx : px < 64) :
    (lines.flatMap (memory.rowOf drawing)).count (px, py) =
      lines.countP (memory.hitsInRow drawing px py) := by
  induction lines with
  | nil => rfl
  | cons line rest ih =>
      rw [List.flatMap_cons, List.count_append, memory.count_rowOf drawing line hpx, ih,
        List.countP_cons, Nat.add_comm]

end Memory

/-! ## One sprite -/

namespace Machine

/-- Point the index register at a sprite and draw it. -/
def drawAt (machine : Machine) (drawing : Drawing) : Machine :=
  { machine with index := drawing.index }.drawSprite drawing.x drawing.y drawing.height.toNat

section OneSprite

variable (machine : Machine) (drawing : Drawing)

theorem spriteOn_eq_flatMap :
    { machine with index := drawing.index }.spriteOn drawing.x drawing.y drawing.height.toNat =
      (List.range drawing.height.toNat).flatMap (machine.memory.rowOf drawing) := by
  rw [spriteOn, Memory.readAll, Screen.spritePixels_map_range]
  rfl

theorem pixel_drawAt {px py : Nat} (hpx : px < 64) (hpy : py < 32) :
    (machine.drawAt drawing).screen.pixel px py =
      (machine.screen.pixel px py ^^ (machine.memory.hits drawing px py).bodd) := by
  have hreduced := { machine with index := drawing.index }.reduced_of_mem_spriteOn
    drawing.x drawing.y drawing.height.toNat
  rw [drawAt, screen_drawSprite, Screen.pixel_toggleAll_count hreduced, Nat.mod_eq_of_lt hpx,
    Nat.mod_eq_of_lt hpy, spriteOn_eq_flatMap, Memory.count_flatMap_rowOf _ _ _ hpx]
  rfl

/-- Drawing changes the picture, the flag and the index register. -/
theorem drawAt_cases :
    ∃ screen registers, machine.drawAt drawing =
      { machine with screen, registers, index := drawing.index } :=
  drawSprite_cases { machine with index := drawing.index } drawing.x drawing.y

theorem memory_drawAt : (machine.drawAt drawing).memory = machine.memory := by
  obtain ⟨screen, registers, hafter⟩ := machine.drawAt_cases drawing
  rw [hafter]

theorem register_drawAt {other : Register} (hother : other ≠ flagRegister) :
    (machine.drawAt drawing).register other = machine.register other :=
  register_drawSprite { machine with index := drawing.index } drawing.x drawing.y hother

end OneSprite

/-! ## A list of sprites -/

/-- Draw sprites one after the other. -/
def drawAll (machine : Machine) (drawings : List Drawing) : Machine :=
  drawings.foldl drawAt machine

section Lists

variable (machine : Machine) (drawings : List Drawing)

/-- Only the picture and the registers depend on what is drawn. -/
theorem drawAll_cases :
    ∃ screen registers, machine.drawAll drawings =
      { machine with
        screen
        registers
        index := ((drawings.map Drawing.index).getLast?).getD machine.index } := by
  induction drawings generalizing machine with
  | nil => exact ⟨_, _, rfl⟩
  | cons drawing rest ih =>
      obtain ⟨screen, registers, hfirst⟩ := machine.drawAt_cases drawing
      obtain ⟨screen', registers', hrest⟩ := ih (machine.drawAt drawing)
      refine ⟨screen', registers', ?_⟩
      change (machine.drawAt drawing).drawAll rest = _
      rw [hrest, hfirst, List.map_cons, List.getLast?_cons, Option.getD_some]

theorem memory_drawAll : (machine.drawAll drawings).memory = machine.memory := by
  obtain ⟨screen, registers, hafter⟩ := machine.drawAll_cases drawings
  rw [hafter]

theorem register_drawAll {other : Register} (hother : other ≠ flagRegister) :
    (machine.drawAll drawings).register other = machine.register other := by
  induction drawings generalizing machine with
  | nil => rfl
  | cons drawing rest ih =>
      exact (ih (machine.drawAt drawing)).trans (machine.register_drawAt drawing hother)

/-- The hits of all sprites add up. -/
theorem pixel_drawAll {px py : Nat} (hpx : px < 64) (hpy : py < 32) :
    (machine.drawAll drawings).screen.pixel px py =
      (machine.screen.pixel px py ^^ (machine.memory.hitsOfAll drawings px py).bodd) := by
  induction drawings generalizing machine with
  | nil => simp [drawAll]
  | cons drawing rest ih =>
      change ((machine.drawAt drawing).drawAll rest).screen.pixel px py = _
      -- The rest is drawn from the same memory, so it hits the same pixels.
      rw [ih, pixel_drawAt _ _ hpx hpy, memory_drawAt, Memory.hitsOfAll_cons, Nat.bodd_add,
        Bool.xor_assoc]

variable {machine} {first second : List Drawing}

theorem screen_drawAll_perm (hperm : first.Perm second) :
    (machine.drawAll first).screen = (machine.drawAll second).screen := by
  apply Screen.eq_of_pixel_eq
  intro px py hpx hpy
  rw [pixel_drawAll _ _ hpx hpy, pixel_drawAll _ _ hpx hpy,
    machine.memory.hitsOfAll_perm hperm]

/-- The second time, every sprite takes back what it has done the first time. -/
theorem screen_drawAll_twice (hperm : first.Perm second) :
    ((machine.drawAll first).drawAll second).screen = machine.screen := by
  apply Screen.eq_of_pixel_eq
  intro px py hpx hpy
  rw [pixel_drawAll _ _ hpx hpy, pixel_drawAll _ _ hpx hpy, memory_drawAll,
    machine.memory.hitsOfAll_perm hperm, Bool.xor_assoc, Bool.xor_self, Bool.xor_false]

end Lists

end Machine

/-- What is promised about drawing a list of sprites. -/
structure ComposesByHits (machine : Machine) (drawings : List Drawing) : Prop where
  picture : ∀ px < 64, ∀ py < 32, (machine.drawAll drawings).screen.pixel px py =
    (machine.screen.pixel px py ^^ (machine.memory.hitsOfAll drawings px py).bodd)
  anyOrder : ∀ other : List Drawing, other.Perm drawings →
    (machine.drawAll other).screen = (machine.drawAll drawings).screen
  /-- Each time the sprites may be drawn in another order. -/
  twice : ∀ first second : List Drawing, first.Perm drawings → second.Perm drawings →
    ((machine.drawAll first).drawAll second).screen = machine.screen
  memory : ∀ done, done <+: drawings → (machine.drawAll done).memory = machine.memory
  registers : ∀ done, done <+: drawings → ∀ other, other ≠ flagRegister →
    (machine.drawAll done).register other = machine.register other
  /-- The index register points at the last sprite, and the timers, the keys, the stack and
  the program counter stay as they are. -/
  beside : ∀ done, done <+: drawings → ∃ screen registers, machine.drawAll done =
    { machine with
      screen
      registers
      index := ((done.map Drawing.index).getLast?).getD machine.index }

namespace Machine

/-- Sprites of any height, in any number and on any picture, are put over each other by
exclusive or. -/
theorem composesByHits (machine : Machine) (drawings : List Drawing) :
    ComposesByHits machine drawings where
  picture _ hpx _ hpy := machine.pixel_drawAll drawings hpx hpy
  anyOrder _ hother := screen_drawAll_perm hother
  twice _ _ hfirst hsecond := screen_drawAll_twice (hfirst.trans hsecond.symm)
  memory done _ := machine.memory_drawAll done
  registers done _ _ hother := machine.register_drawAll done hother
  beside done _ := machine.drawAll_cases done

/-- The first row of the sprite and the one that comes to the same place around the bottom
edge are alike, so the second takes back the first. -/
example :
    let after := initial.drawAll [⟨0, 62, 31, 33⟩]
    (initial.memory.read 0 = initial.memory.read 32 ∧ initial.memory.read 0 = 0xF0) ∧
      after.screen.pixel 62 31 = false ∧ after.register flagRegister = 1 := by
  decide +kernel

end Machine
end ChipEight
