import Mathlib
import ChipEight.Screen

/-!
# The picture, pixel by pixel

The rows of the picture are words of 64 bits, and a row of a sprite is drawn by
one exclusive or.  This module opens that layout: a picture is determined by
its 2048 pixels, and drawing one row of a sprite toggles exactly the pixels
below the set bits of its byte, with coordinates that wrap around both edges.

`toggleAll` is the pixel-by-pixel account of drawing: it goes through a list of
pixels, toggles each, and remembers whether one of them went off.  The theorem
`draw_eq_toggleAll` identifies it with `Screen.draw` for sprites of any height,
those that wrap onto themselves included.
-/

namespace ChipEight
namespace Screen

/-! ## Pictures from pixels -/

/-- The picture with the given pixels. -/
def ofPixels (on : Nat → Nat → Bool) : Screen :=
  ⟨Vector.ofFn fun y => BitVec.ofFnBE fun x => on x.val y.val⟩

@[simp]
theorem pixel_ofPixels (on : Nat → Nat → Bool) (x y : Nat) :
    (ofPixels on).pixel x y = on (x % 64) (y % 32) := by
  have hx : x % 64 < 64 := Nat.mod_lt x (by decide)
  simp only [pixel, row, ofPixels, Vector.getElem_ofFn, BitVec.ofFnBE,
    BitVec.getMsbD, BitVec.getLsbD_ofFnLE, hx, decide_true, Bool.true_and]
  rw [dif_pos (by omega)]
  congr 1
  simp only [Fin.val_rev]
  omega

/-- A picture is determined by its pixels. -/
theorem eq_of_pixel_eq {first second : Screen}
    (hpixel : ∀ x y, x < 64 → y < 32 → first.pixel x y = second.pixel x y) :
    first = second := by
  obtain ⟨firstRows⟩ := first
  obtain ⟨secondRows⟩ := second
  congr 1
  apply Vector.ext
  intro y hy
  apply BitVec.eq_of_getMsbD_eq
  intro x hx
  simpa [pixel, row, Nat.mod_eq_of_lt hx, Nat.mod_eq_of_lt hy] using hpixel x y hx hy

theorem blank_eq_ofPixels : blank = ofPixels fun _ _ => false := by
  apply eq_of_pixel_eq
  intro x y _ _
  rw [pixel_ofPixels]
  simp [pixel, row, blank]

/-- Flipping a row by a mask toggles the pixels under the mask. -/
theorem pixel_flip (screen : Screen) (y : Nat) (mask : PixelRow) (px py : Nat) :
    (screen.flip y mask).pixel px py =
      (screen.pixel px py ^^ (decide (py % 32 = y % 32) && mask.getMsbD (px % 64))) := by
  unfold pixel
  rw [row_flip]
  by_cases hrow : y % 32 = py % 32
  · have hsame : screen.row y = screen.row py := by simp [row, hrow]
    simp [hrow, hsame]
  · simp [hrow, Ne.symm hrow]

/-- The byte of a sprite row at the left edge: its bits from the left. -/
theorem getMsbD_wideByte (byte : UInt8) (column : Nat) :
    (byte.toBitVec.setWidth 64 <<< 56).getMsbD column =
      (decide (column < 8) && byte.toNat.testBit (7 - column)) := by
  rw [BitVec.getMsbD_shiftLeft, BitVec.getMsbD_setWidth]
  by_cases hcolumn : column < 8
  · simp [BitVec.getMsbD, hcolumn, BitVec.getLsbD]
  · simp [BitVec.getMsbD, hcolumn]

/-- The pixels of a row of a sprite, by their distance from its left edge. -/
theorem getMsbD_spriteRow (byte : UInt8) (x px : Nat) (hpx : px < 64) :
    (spriteRow byte x).getMsbD px =
      (decide ((px + 64 - x % 64) % 64 < 8) &&
        byte.toNat.testBit (7 - (px + 64 - x % 64) % 64)) := by
  have hx : x % 64 < 64 := Nat.mod_lt x (by decide)
  rw [spriteRow, BitVec.getMsbD_rotateRight]
  split
  · rw [getMsbD_wideByte, Nat.add_comm 64 px]
    simp [hpx]
  · rw [getMsbD_wideByte, show (px + 64 - x % 64) % 64 = px - x % 64 by omega]
    simp [hpx]

/-! ## Toggling pixels one by one -/

/-- Toggle one pixel. -/
def toggle (screen : Screen) (x y : Nat) : Screen :=
  ofPixels fun px py => screen.pixel px py ^^ (px == x % 64 && py == y % 32)

/-- Toggle pixels one after the other.  Answers the new picture, and whether a
pixel went off. -/
def toggleAll (screen : Screen) : List (Nat × Nat) → Screen × Bool
  | [] => (screen, false)
  | (x, y) :: rest =>
    let (after, more) := (screen.toggle x y).toggleAll rest
    (after, screen.pixel x y || more)

theorem pixel_toggle (screen : Screen) (x y px py : Nat) :
    (screen.toggle x y).pixel px py =
      (screen.pixel px py ^^ decide (px % 64 = x % 64 ∧ py % 32 = y % 32)) := by
  rw [toggle, pixel_ofPixels, pixel_mod]
  simp [Bool.decide_and, BEq.beq]

theorem toggleAll_append (screen : Screen) (first second : List (Nat × Nat)) :
    screen.toggleAll (first ++ second) =
      (((screen.toggleAll first).1.toggleAll second).1,
        (screen.toggleAll first).2 || ((screen.toggleAll first).1.toggleAll second).2) := by
  induction first generalizing screen with
  | nil => simp [toggleAll]
  | cons pixel rest ih =>
      obtain ⟨x, y⟩ := pixel
      simp [toggleAll, ih, Bool.or_assoc]

/-- A pixel changes if it is toggled an odd number of times. -/
theorem pixel_toggleAll_count {screen : Screen} {pixels : List (Nat × Nat)}
    (hreduced : ∀ p ∈ pixels, p.1 < 64 ∧ p.2 < 32) (px py : Nat) :
    (screen.toggleAll pixels).1.pixel px py =
      (screen.pixel px py ^^ (pixels.count (px % 64, py % 32)).bodd) := by
  induction pixels generalizing screen with
  | nil => simp [toggleAll]
  | cons pixel rest ih =>
      obtain ⟨x, y⟩ := pixel
      obtain ⟨hx, hy⟩ := hreduced (x, y) List.mem_cons_self
      simp only at hx hy
      simp only [toggleAll]
      rw [ih fun p hp => hreduced p (List.mem_cons_of_mem _ hp), pixel_toggle,
        Nat.mod_eq_of_lt hx, Nat.mod_eq_of_lt hy]
      by_cases hhere : px % 64 = x ∧ py % 32 = y
      · obtain ⟨rfl, rfl⟩ := hhere
        rw [List.count_cons_self, Nat.bodd_succ]
        simp
      · have hother : (x, y) ≠ (px % 64, py % 32) :=
          fun h => hhere ⟨(Prod.mk.inj h).1.symm, (Prod.mk.inj h).2.symm⟩
        rw [List.count_cons_of_ne hother, decide_eq_false hhere, Bool.xor_false]

/-- Toggling different pixels toggles each of them once. -/
theorem pixel_toggleAll {screen : Screen} {pixels : List (Nat × Nat)}
    (hnodup : pixels.Nodup) (hreduced : ∀ p ∈ pixels, p.1 < 64 ∧ p.2 < 32)
    (px py : Nat) :
    (screen.toggleAll pixels).1.pixel px py =
      (screen.pixel px py ^^ decide ((px % 64, py % 32) ∈ pixels)) := by
  rw [pixel_toggleAll_count hreduced, hnodup.count]
  by_cases hmem : (px % 64, py % 32) ∈ pixels
  · simp [hmem]
  · simp [hmem]

/-- When different pixels are toggled, one of them goes off exactly if one of
them was on before. -/
theorem toggleAll_snd {screen : Screen} {pixels : List (Nat × Nat)}
    (hnodup : pixels.Nodup) (hreduced : ∀ p ∈ pixels, p.1 < 64 ∧ p.2 < 32) :
    (screen.toggleAll pixels).2 = pixels.any fun p => screen.pixel p.1 p.2 := by
  induction pixels generalizing screen with
  | nil => rfl
  | cons pixel rest ih =>
      obtain ⟨x, y⟩ := pixel
      obtain ⟨hnew, hrest⟩ := List.nodup_cons.mp hnodup
      have hreducedRest : ∀ p ∈ rest, p.1 < 64 ∧ p.2 < 32 :=
        fun p hp => hreduced p (List.mem_cons_of_mem _ hp)
      obtain ⟨hx, hy⟩ := hreduced (x, y) List.mem_cons_self
      simp only at hx hy
      -- Toggling the first pixel does not change what is found at the others.
      have hkept : ∀ p ∈ rest, (screen.toggle x y).pixel p.1 p.2 = screen.pixel p.1 p.2 := by
        intro p hp
        obtain ⟨hpx, hpy⟩ := hreducedRest p hp
        have hother : ¬ (p.1 = x ∧ p.2 = y) :=
          fun h => hnew (by rwa [← h.1, ← h.2])
        simp [pixel_toggle, Nat.mod_eq_of_lt, hpx, hpy, hx, hy, hother]
      have hany : (rest.any fun p => (screen.toggle x y).pixel p.1 p.2) =
          rest.any fun p => screen.pixel p.1 p.2 := by
        rw [Bool.eq_iff_iff, List.any_eq_true, List.any_eq_true]
        exact exists_congr fun p => and_congr_right fun hp => by rw [hkept p hp]
      simp only [toggleAll, List.any_cons]
      rw [ih hrest hreducedRest, hany]

/-! ## Sprites -/

/-- The pixels of one row of a sprite: its byte's highest bit belongs to column
`x`, and the others follow to the right. -/
def rowPixels (byte : UInt8) (x y : Nat) : List (Nat × Nat) :=
  ((List.range 8).filter fun column => byte.toNat.testBit (7 - column)).map
    fun column => ((x + column) % 64, y % 32)

theorem mem_rowPixels (byte : UInt8) (x y px py : Nat) :
    (px, py) ∈ rowPixels byte x y ↔
      px < 64 ∧ py = y % 32 ∧ (spriteRow byte x).getMsbD px = true := by
  simp only [rowPixels, List.mem_map, List.mem_filter, List.mem_range, Prod.mk.injEq]
  constructor
  · rintro ⟨column, ⟨hcolumn, hbit⟩, rfl, rfl⟩
    have hpx : (x + column) % 64 < 64 := Nat.mod_lt _ (by decide)
    have hdistance : ((x + column) % 64 + 64 - x % 64) % 64 = column := by omega
    refine ⟨hpx, rfl, ?_⟩
    rw [getMsbD_spriteRow _ _ _ hpx, hdistance]
    simp [hcolumn, hbit]
  · rintro ⟨hpx, rfl, hbit⟩
    rw [getMsbD_spriteRow _ _ _ hpx, Bool.and_eq_true, decide_eq_true_eq] at hbit
    exact ⟨(px + 64 - x % 64) % 64, hbit, by omega, rfl⟩

theorem nodup_rowPixels (byte : UInt8) (x y : Nat) : (rowPixels byte x y).Nodup := by
  apply List.Nodup.map_on
  · intro first hfirst second hsecond hsame
    simp only [List.mem_filter, List.mem_range] at hfirst hsecond
    have hcolumn := (Prod.mk.inj hsame).1
    omega
  · exact List.nodup_range.filter _

theorem reduced_of_mem_rowPixels {byte : UInt8} {x y : Nat} {p : Nat × Nat}
    (hp : p ∈ rowPixels byte x y) : p.1 < 64 ∧ p.2 < 32 := by
  obtain ⟨hpx, hpy, -⟩ := (mem_rowPixels byte x y p.1 p.2).mp hp
  exact ⟨hpx, hpy ▸ Nat.mod_lt _ (by decide)⟩

/-- Whether two rows of pixels have a pixel in common. -/
theorem and_ne_zero_iff (first second : PixelRow) :
    (first &&& second != 0) = true ↔
      ∃ px < 64, first.getMsbD px = true ∧ second.getMsbD px = true := by
  rw [bne_iff_ne]
  constructor
  · intro hne
    by_contra hnone
    push Not at hnone
    apply hne
    apply BitVec.eq_of_getMsbD_eq
    intro px hpx
    have := hnone px hpx
    rw [BitVec.getMsbD_and]
    cases hfirst : first.getMsbD px <;> simp_all
  · rintro ⟨px, -, hfirst, hsecond⟩ hzero
    have hbit := congrArg (·.getMsbD px) hzero
    simp [hfirst, hsecond] at hbit

/-- Drawing one row at once toggles its pixels one by one. -/
theorem toggleAll_rowPixels (screen : Screen) (byte : UInt8) (x y : Nat) :
    screen.toggleAll (rowPixels byte x y) =
      (screen.flip y (spriteRow byte x), screen.row y &&& spriteRow byte x != 0) := by
  have hnodup := nodup_rowPixels byte x y
  have hreduced : ∀ p ∈ rowPixels byte x y, p.1 < 64 ∧ p.2 < 32 :=
    fun p hp => reduced_of_mem_rowPixels hp
  refine Prod.ext ?_ ?_
  -- The pictures agree pixel by pixel.
  · apply eq_of_pixel_eq
    intro px py hpx hpy
    rw [pixel_toggleAll hnodup hreduced, pixel_flip]
    congr 1
    rw [Bool.eq_iff_iff, decide_eq_true_eq, mem_rowPixels]
    simp [Nat.mod_eq_of_lt, hpx, hpy]
  -- Both flags ask for a pixel that is on and below a set bit.
  · rw [toggleAll_snd hnodup hreduced, Bool.eq_iff_iff, and_ne_zero_iff, List.any_eq_true]
    constructor
    · rintro ⟨⟨px, py⟩, hp, hon⟩
      obtain ⟨hpx, rfl, hbit⟩ := (mem_rowPixels byte x y px py).mp hp
      refine ⟨px, hpx, ?_, hbit⟩
      simpa [pixel, row, Nat.mod_eq_of_lt hpx] using hon
    · rintro ⟨px, hpx, hon, hbit⟩
      refine ⟨(px, y % 32), (mem_rowPixels byte x y px _).mpr ⟨hpx, rfl, hbit⟩, ?_⟩
      simpa [pixel, row, Nat.mod_eq_of_lt hpx] using hon

/-- The pixels of a sprite with its top left corner at column `x` and row `y`,
from the top row to the bottom row. -/
def spritePixels (x y : Nat) : List UInt8 → List (Nat × Nat)
  | [] => []
  | byte :: rest => rowPixels byte x y ++ spritePixels x (y + 1) rest

/-- Drawing a sprite toggles its pixels one by one. -/
theorem draw_eq_toggleAll (screen : Screen) (x y : Nat) (sprite : List UInt8) :
    screen.draw x y sprite = screen.toggleAll (spritePixels x y sprite) := by
  induction sprite generalizing screen y with
  | nil => rfl
  | cons byte rest ih =>
      rw [spritePixels, toggleAll_append, toggleAll_rowPixels, ← ih]
      rfl

/-- The pixels of a sprite whose rows are given by their number. -/
theorem spritePixels_map_range (x y count : Nat) (byteAt : Nat → UInt8) :
    spritePixels x y ((List.range count).map byteAt) =
      (List.range count).flatMap fun line => rowPixels (byteAt line) x (y + line) := by
  induction count generalizing y byteAt with
  | zero => rfl
  | succ count ih =>
      rw [List.range_succ_eq_map, List.map_cons, spritePixels, List.flatMap_cons,
        List.map_map, List.flatMap_map, ih]
      simp [Nat.add_assoc, Nat.add_comm 1]

end Screen
end ChipEight
