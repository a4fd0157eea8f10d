import Mathlib
import ChipEight.Proofs.Screen
import ChipEight.Proofs.Stack

/-!
# Drawing, pixel by pixel

A draw instruction toggles the pixels under the set bits of its sprite, counted from the
sprite's top left pixel to the right and down and around both edges.  Since a sprite of
an instruction is at most fifteen rows high, no pixel is under it twice.  The flag tells
whether a pixel under the sprite was on before, and nothing else changes (`drawsExactly`).

Which pixels are under the sprite is said by `Machine.covers` for one pixel, with the
distance from the sprite's corner, and not by going through the sprite.
-/

namespace ChipEight

/-! ## Distances around an edge -/

/-- How many steps to the right, or down, lead from one coordinate to another, around the
edge if need be. -/
def stepsAround (size start stop : Nat) : Nat :=
  (((stop : Int) - start) % size).toNat

theorem stepsAround_columns {start stop : Nat} (hstop : stop < 64) :
    stepsAround 64 start stop = (stop + 64 - start % 64) % 64 := by
  unfold stepsAround
  omega

/-- Each row has one distance from another row. -/
theorem add_mod_eq_iff_stepsAround {start steps stop : Nat} (hsteps : steps < 32)
    (hstop : stop < 32) : stop = (start + steps) % 32 ↔ steps = stepsAround 32 start stop := by
  unfold stepsAround
  omega

/-! ## The pixels of a sprite -/

namespace Screen

variable (byteAt : Nat → UInt8) (x y : Nat) {height : Nat}

theorem mem_spritePixels_map_range (pixel : Nat × Nat) :
    pixel ∈ spritePixels x y ((List.range height).map byteAt) ↔
      ∃ line < height, pixel ∈ rowPixels (byteAt line) x (y + line) := by
  simp only [spritePixels_map_range, List.mem_flatMap, List.mem_range]

/-- No pixel is twice under a sprite that is not higher than the screen. -/
theorem nodup_spritePixels (hheight : height ≤ 32) :
    (spritePixels x y ((List.range height).map byteAt)).Nodup := by
  rw [spritePixels_map_range, List.nodup_flatMap]
  refine ⟨fun line _ => nodup_rowPixels (byteAt line) x (y + line), ?_⟩
  -- Different rows of the sprite are in different rows of the picture.
  refine (List.pairwise_lt_range (n := height)).imp_of_mem ?_
  rintro first second hfirst hsecond hless ⟨px, py⟩ hin hin'
  obtain ⟨-, hrow, -⟩ := (mem_rowPixels _ _ _ _ _).mp hin
  obtain ⟨-, hrow', -⟩ := (mem_rowPixels _ _ _ _ _).mp hin'
  rw [List.mem_range] at hfirst hsecond
  omega

theorem reduced_of_mem_spritePixels {pixel : Nat × Nat}
    (hpixel : pixel ∈ spritePixels x y ((List.range height).map byteAt)) :
    pixel.1 < 64 ∧ pixel.2 < 32 := by
  obtain ⟨line, -, hrow⟩ := (mem_spritePixels_map_range byteAt x y pixel).mp hpixel
  exact reduced_of_mem_rowPixels hrow

end Screen

/-! ## Sprites in memory -/

namespace Machine

/-- Whether a pixel is under a set bit of the sprite at the index register, if the
sprite's top left pixel is in column `x` and row `y`. -/
def covers (machine : Machine) (x y : UInt8) (height px py : Nat) : Bool :=
  let line := stepsAround 32 y.toNat py
  let column := stepsAround 64 x.toNat px
  decide (line < height) && decide (column < 8)
    && (machine.memory.read (machine.index.toNat + line)).toNat.testBit (7 - column)

variable (machine : Machine) (x y : UInt8) {height : Nat}

/-- The sprite at the index register, row by row. -/
def spriteOn (height : Nat) : List (Nat × Nat) :=
  Screen.spritePixels x.toNat y.toNat (machine.memory.readAll machine.index.toNat height)

theorem mem_spriteOn (hheight : height ≤ 32) {px py : Nat} (hpx : px < 64) (hpy : py < 32) :
    (px, py) ∈ machine.spriteOn x y height ↔ machine.covers x y height px py = true := by
  rw [spriteOn, Memory.readAll, Screen.mem_spritePixels_map_range]
  simp only [covers, Bool.and_eq_true, decide_eq_true_eq]
  constructor
  · rintro ⟨line, hline, hrow⟩
    obtain ⟨-, hpy', hbit⟩ := (Screen.mem_rowPixels _ _ _ _ _).mp hrow
    rw [add_mod_eq_iff_stepsAround (by omega) hpy] at hpy'
    rw [Screen.getMsbD_spriteRow _ _ _ hpx, ← stepsAround_columns hpx, Bool.and_eq_true,
      decide_eq_true_eq] at hbit
    rw [← hpy']
    exact ⟨⟨hline, hbit.1⟩, hbit.2⟩
  · rintro ⟨⟨hline, hcolumn⟩, hbit⟩
    refine ⟨_, hline, (Screen.mem_rowPixels _ _ _ _ _).mpr ⟨hpx, ?_, ?_⟩⟩
    · rw [add_mod_eq_iff_stepsAround (by omega) hpy]
    · rw [Screen.getMsbD_spriteRow _ _ _ hpx, ← stepsAround_columns hpx, Bool.and_eq_true,
        decide_eq_true_eq]
      exact ⟨hcolumn, hbit⟩

theorem drawSprite_eq_toggleAll :
    machine.drawSprite x y height =
      { machine with screen := (machine.screen.toggleAll (machine.spriteOn x y height)).1 }.setFlag
        (machine.screen.toggleAll (machine.spriteOn x y height)).2 := by
  rw [drawSprite, Screen.draw_eq_toggleAll]
  rfl

theorem screen_drawSprite :
    (machine.drawSprite x y height).screen =
      (machine.screen.toggleAll (machine.spriteOn x y height)).1 := by
  rw [drawSprite_eq_toggleAll]
  rfl

/-! ## The machine after drawing -/

/-- Drawing changes the picture and the flag. -/
theorem drawSprite_cases :
    ∃ screen registers, machine.drawSprite x y height = { machine with screen, registers } := by
  rw [drawSprite_eq_toggleAll]
  exact ⟨_, _, rfl⟩

theorem register_drawSprite {other : Register} (hother : other ≠ flagRegister) :
    (machine.drawSprite x y height).register other = machine.register other := by
  rw [drawSprite_eq_toggleAll, setFlag, register_setRegister, if_neg hother.symm]
  rfl

theorem reduced_of_mem_spriteOn (height : Nat) :
    ∀ pixel ∈ machine.spriteOn x y height, pixel.1 < 64 ∧ pixel.2 < 32 := by
  rw [spriteOn, Memory.readAll]
  exact fun pixel => Screen.reduced_of_mem_spritePixels _ _ _

section LowSprite

variable (hheight : height ≤ 32)

include hheight

theorem nodup_spriteOn : (machine.spriteOn x y height).Nodup := by
  rw [spriteOn, Memory.readAll]
  exact Screen.nodup_spritePixels _ _ _ hheight

theorem pixel_drawSprite {px py : Nat} (hpx : px < 64) (hpy : py < 32) :
    (machine.drawSprite x y height).screen.pixel px py =
      (machine.screen.pixel px py ^^ machine.covers x y height px py) := by
  rw [screen_drawSprite, Screen.pixel_toggleAll (machine.nodup_spriteOn x y hheight)
    (machine.reduced_of_mem_spriteOn x y height), Nat.mod_eq_of_lt hpx, Nat.mod_eq_of_lt hpy]
  congr 1
  rw [Bool.eq_iff_iff, decide_eq_true_eq, machine.mem_spriteOn x y hheight hpx hpy]

theorem flag_drawSprite :
    (machine.drawSprite x y height).register flagRegister =
      if ∃ (px : Fin 64) (py : Fin 32),
          machine.covers x y height px py = true ∧ machine.screen.pixel px py = true
      then 1 else 0 := by
  have hreduced := machine.reduced_of_mem_spriteOn x y height
  rw [drawSprite_eq_toggleAll, setFlag, register_setRegister, if_pos rfl,
    Screen.toggleAll_snd (machine.nodup_spriteOn x y hheight) hreduced]
  refine if_congr ?_ rfl rfl
  rw [List.any_eq_true]
  constructor
  · rintro ⟨⟨px, py⟩, hmem, hon⟩
    obtain ⟨hpx, hpy⟩ := hreduced _ hmem
    exact ⟨⟨px, hpx⟩, ⟨py, hpy⟩, (machine.mem_spriteOn x y hheight hpx hpy).mp hmem, hon⟩
  · rintro ⟨px, py, hcovers, hon⟩
    exact ⟨(px, py), (machine.mem_spriteOn x y hheight px.isLt py.isLt).mpr hcovers, hon⟩

end LowSprite

end Machine

/-! ## The draw instruction -/

theorem Word.decode_of_group_draw {word : Word} (hgroup : word.group = 13) :
    word.decode = some (.draw word.x word.y word.n) := by
  rw [decode_eq_meaningOf, hgroup]
  rfl

namespace Interpreter

variable {σ : Type} [RandomSource σ]

/-- Whether a pixel is under a set bit of the sprite that the next word draws, if it is a
word that draws. -/
def drawsOn (interpreter : Interpreter σ) (px py : Nat) : Bool :=
  let word := interpreter.machine.currentWord
  interpreter.machine.covers (interpreter.machine.register word.x)
    (interpreter.machine.register word.y) word.n.val px py

/-- What a step does that draws. -/
structure DrawsExactly (interpreter : Interpreter σ) : Prop where
  answer : interpreter.step.1 = .ok .draw
  picture : ∀ px < 64, ∀ py < 32,
    interpreter.step.2.machine.screen.pixel px py =
      (interpreter.machine.screen.pixel px py ^^ interpreter.drawsOn px py)
  /-- The operands are looked at before the flag is written, also if the flag register is
  one of them. -/
  flag : interpreter.step.2.machine.register flagRegister =
    if ∃ (px : Fin 64) (py : Fin 32),
        interpreter.drawsOn px py = true ∧ interpreter.machine.screen.pixel px py = true
    then 1 else 0
  registers : ∀ other, other ≠ flagRegister →
    interpreter.step.2.machine.register other = interpreter.machine.register other
  /-- Memory, the index register, the timers, the keys and the stack stay as they are. -/
  beside : ∃ screen registers, interpreter.step.2 =
    { interpreter with
      machine := { interpreter.machine with
        counter := interpreter.machine.counter + 2, screen, registers } }

theorem step_of_draw {interpreter : Interpreter σ}
    (hgroup : interpreter.machine.currentWord.group = 13) :
    let word := interpreter.machine.currentWord
    interpreter.step =
      (.ok .draw, { interpreter with
        machine := interpreter.machine.advance.drawSprite (interpreter.machine.register word.x)
          (interpreter.machine.register word.y) word.n.val }) := by
  rw [step_of_instruction (Word.decode_of_group_draw hgroup)]
  rfl

/-- In every state a word of group `D` draws its sprite, pixel by pixel. -/
theorem drawsExactly {interpreter : Interpreter σ}
    (hgroup : interpreter.machine.currentWord.group = 13) : DrawsExactly interpreter := by
  have hheight : interpreter.machine.currentWord.n.val ≤ 32 := by omega
  have hstep := step_of_draw hgroup
  constructor
  all_goals rw [hstep]
  case picture =>
    intro px hpx py hpy
    exact interpreter.machine.advance.pixel_drawSprite _ _ hheight hpx hpy
  case flag => exact interpreter.machine.advance.flag_drawSprite _ _ hheight
  case registers =>
    intro other hother
    exact interpreter.machine.advance.register_drawSprite _ _ hother
  case beside =>
    obtain ⟨screen, registers, hafter⟩ := interpreter.machine.advance.drawSprite_cases
      (interpreter.machine.register interpreter.machine.currentWord.x)
      (interpreter.machine.register interpreter.machine.currentWord.y)
    exact ⟨screen, registers, by rw [hafter]; rfl⟩

/-- The second row of the sprite comes from the start of memory and goes to the top of the
picture, from its last column on.  The column is in the flag register, and the picture is
drawn a second time. -/
theorem drawsExactly_aroundCorner :
    let program : List UInt8 :=
      [0xAF, 0xFF, 0x61, 0x1F, 0x6F, 0x3F, 0xDF, 0x12, 0x6F, 0x3F, 0xDF, 0x12]
    let interpreter : Interpreter CountingSource :=
      (((new ⟨0, 1⟩ none).perform (.load program)).2.perform (.run 5)).2
    interpreter.machine.currentWord.group = 13 ∧
      interpreter.machine.currentWord.x = flagRegister ∧
      interpreter.machine.index = 0xFFF ∧
      (∀ px < 3, interpreter.machine.screen.pixel px 0 = true) ∧
      (∀ px < 3, interpreter.step.2.machine.screen.pixel px 0 = false) ∧
      interpreter.step.2.machine.register flagRegister = 1 := by
  intro program interpreter
  have hbefore : interpreter.machine.currentWord.group = 13 ∧
      interpreter.machine.currentWord.x = flagRegister ∧
      interpreter.machine.index = 0xFFF ∧
      ∀ px < 3, interpreter.machine.screen.pixel px 0 = true := by
    decide +kernel
  obtain ⟨hgroup, hcolumn, hindex, hon⟩ := hbefore
  have hdraws := drawsExactly hgroup
  refine ⟨hgroup, hcolumn, hindex, hon, ?_, ?_⟩
  · intro px hpx
    rw [hdraws.picture px (by omega) 0 (by decide)]
    revert px
    decide +kernel
  · rw [hdraws.flag]
    decide +kernel

end Interpreter
end ChipEight
