import Mathlib
import ChipEight.Machine.Report
import ChipEight.Proofs.Listing
import ChipEight.Proofs.Loose.Machine

/-!
# Reading reports back

The report of the registers is a row of words `name=value`, and the report of the picture
has a character for each pixel.  Nothing of what they show is lost: a reader that takes the
words apart finds every register, both timers and the depth of the stack
(`read?_registerReport`), and the lines of the picture have the pixels in their columns
(`lines_screenReport`).  So machines with the same two reports agree on all of this
(`showsState`).

The depth of the stack is the only number whose width has no bound, and it is written in
base ten; all others have the width of their register.
-/

namespace ChipEight

open Numeral

/-! ## Words of a text -/

namespace Report

/-- What separates words. -/
def isBlank (c : Char) : Bool :=
  c == ' ' || c == '\n'

/-- The words of a text. -/
def words (text : List Char) : List (List Char) :=
  (text.splitOnP isBlank).filter (!·.isEmpty)

/-- The value in a word that consists of a name, an equals sign and a value. -/
def valueOf? : List Char → List Char → Option (List Char)
  | [], '=' :: value => some value
  | c :: name, d :: word => if c = d then valueOf? name word else none
  | _, _ => none

/-- A name and a value in one word. -/
def word (entry : List Char × List Char) : List Char :=
  entry.1 ++ '=' :: entry.2

/-- A text that can stand in a word. -/
def IsWhole (text : List Char) : Prop :=
  ∀ c ∈ text, isBlank c = false

theorem valueOf?_word (entry : List Char × List Char) :
    valueOf? entry.1 (word entry) = some entry.2 := by
  obtain ⟨name, value⟩ := entry
  induction name with
  | nil => rfl
  | cons c name ih =>
      rw [word, List.cons_append, valueOf?, if_pos rfl]
      exact ih

theorem isWhole_word {entry : List Char × List Char} (hname : IsWhole entry.1)
    (hvalue : IsWhole entry.2) : IsWhole (word entry) := by
  intro c hc
  rcases List.mem_append.mp hc with hmem | hmem
  · exact hname c hmem
  · rcases List.mem_cons.mp hmem with rfl | hmem
    · decide
    · exact hvalue c hmem

theorem words_blank {c : Char} (hblank : isBlank c = true) (rest : List Char) :
    words (c :: rest) = words rest := by
  have hnone : ∀ x ∈ ([] : List Char), isBlank x = false := by simp
  have hsplit := List.splitOnP_append_cons_of_forall_mem hnone c hblank rest
  rw [List.nil_append] at hsplit
  rw [words, hsplit]
  rfl

/-- A word in front of a blank is the first of the words. -/
theorem words_word_append {entry : List Char × List Char} (hword : IsWhole (word entry)) {c : Char}
    (hblank : isBlank c = true) (rest : List Char) :
    words (word entry ++ c :: rest) = word entry :: words rest := by
  have hsplit := List.splitOnP_append_cons_of_forall_mem hword c hblank rest
  rw [words, hsplit, List.filter_cons_of_pos (by simp [word])]
  rfl

theorem words_flatMap_append {entries : List (List Char × List Char)}
    (hwords : ∀ entry ∈ entries, IsWhole (word entry)) (rest : List Char) :
    words (entries.flatMap (fun entry => word entry ++ [' ']) ++ rest) =
      entries.map word ++ words rest := by
  induction entries with
  | nil => rfl
  | cons entry entries ih =>
      obtain ⟨hword, hrest⟩ := List.forall_mem_cons.mp hwords
      rw [List.flatMap_cons, List.append_assoc, List.append_assoc, List.singleton_append,
        words_word_append hword (by decide), ih hrest]
      rfl

/-- Words with the names that are expected are taken apart. -/
theorem mapM_valueOf? (entries : List (List Char × List Char)) :
    ((entries.map Prod.fst).zip (entries.map word)).mapM (fun (name, text) => valueOf? name text) =
      some (entries.map Prod.snd) := by
  induction entries with
  | nil => rfl
  | cons entry entries ih =>
      rw [List.map_cons, List.map_cons, List.zip_cons_cons, List.mapM_cons, ih, List.map_cons]
      dsimp only
      rw [valueOf?_word]
      rfl

theorem isWhole_hexDigits (width number : Nat) : IsWhole (hexDigits width number) := by
  intro c hc
  by_contra hblank
  rw [Bool.not_eq_false, isBlank, Bool.or_eq_true, beq_iff_eq, beq_iff_eq] at hblank
  rcases hblank with rfl | rfl <;> exact not_mem_hexDigits (by decide) width number hc

theorem isWhole_decimal (number : Nat) : IsWhole (decimal number).toList := by
  intro c hc
  by_contra hblank
  rw [Bool.not_eq_false, isBlank, Bool.or_eq_true, beq_iff_eq, beq_iff_eq] at hblank
  rcases hblank with rfl | rfl <;> exact not_mem_decimal (by decide) number hc

end Report

/-! ## Registers -/

/-- What the report of the registers shows. -/
structure RegisterView where
  /-- The general registers in order. -/
  registers : List UInt8
  counter : UInt16
  index : UInt16
  delay : UInt8
  sound : UInt8
  /-- How many return addresses are on the stack. -/
  depth : Nat
deriving DecidableEq

namespace RegisterView

/-- The names in the report, in order. -/
def names : List (List Char) :=
  ["V0", "V1", "V2", "V3", "V4", "V5", "V6", "V7", "V8", "V9", "VA", "VB", "VC", "VD", "VE", "VF",
    "PC", "I", "DT", "ST", "SP"].map String.toList

/-- Read the values of the report. -/
def ofValues? : List (List Char) → Option RegisterView
  | values => do
    let registers ← (values.take 16).mapM (read? 16)
    match values.drop 16 with
    | [counter, index, delay, sound, depth] =>
      return {
        registers := registers.map UInt8.ofNat
        counter := UInt16.ofNat (← read? 16 counter)
        index := UInt16.ofNat (← read? 16 index)
        delay := UInt8.ofNat (← read? 16 delay)
        sound := UInt8.ofNat (← read? 16 sound)
        depth := ← read? 10 depth }
    | _ => none

/-- Read a report of the registers, word by word. -/
def read? (report : String) : Option RegisterView := do
  ofValues? (← (names.zip (Report.words report.toList)).mapM fun (name, text) =>
    Report.valueOf? name text)

end RegisterView

namespace Machine

variable (machine : Machine)

/-- What the report of the registers should show. -/
def registerView : RegisterView where
  registers := machine.registers.toList
  counter := machine.counter
  index := machine.index
  delay := machine.delay
  sound := machine.sound
  depth := machine.stack.size

/-- The general registers in the report. -/
def registerEntries : List (List Char × List Char) :=
  (List.finRange 16).map fun register =>
    ('V' :: hexDigits 1 register.val, hexDigits 2 (machine.register register).toNat)

/-- The other registers in the report, but for the depth of the stack. -/
def controlEntries : List (List Char × List Char) :=
  [(['P', 'C'], hexDigits 4 machine.counter.toNat), (['I'], hexDigits 4 machine.index.toNat),
    (['D', 'T'], hexDigits 2 machine.delay.toNat), (['S', 'T'], hexDigits 2 machine.sound.toNat)]

/-- The depth of the stack in the report. -/
def depthEntry : List Char × List Char :=
  (['S', 'P'], (decimal machine.stack.size).toList)

theorem toList_registerReport :
    machine.registerReport.toList =
      machine.registerEntries.flatMap (fun entry => Report.word entry ++ [' ']) ++
        '\n' :: (machine.controlEntries.flatMap (fun entry => Report.word entry ++ [' ']) ++
          (Report.word machine.depthEntry ++ ['\n'])) := by
  have hentry (register : Register) : (machine.registerEntry register).toList =
      Report.word ('V' :: hexDigits 1 register.val, hexDigits 2 (machine.register register).toNat)
        ++ [' '] := by
    simp [registerEntry, Report.word, hex]
  have hregisters : (String.join ((List.finRange 16).map machine.registerEntry)).toList =
      machine.registerEntries.flatMap fun entry => Report.word entry ++ [' '] := by
    rw [String.toList_join, List.flatMap_map, registerEntries, List.flatMap_map]
    exact List.flatMap_congr fun register _ => hentry register
  simp [registerReport, hregisters, controlEntries, depthEntry, Report.word, hex]

theorem words_registerReport :
    Report.words machine.registerReport.toList =
      (machine.registerEntries ++ machine.controlEntries ++ [machine.depthEntry]).map
        Report.word := by
  have hregisters : ∀ entry ∈ machine.registerEntries, Report.IsWhole (Report.word entry) := by
    intro entry hentry
    obtain ⟨register, -, rfl⟩ := List.mem_map.mp hentry
    refine Report.isWhole_word (List.forall_mem_cons.mpr ⟨by decide, ?_⟩)
      (Report.isWhole_hexDigits _ _)
    exact Report.isWhole_hexDigits 1 register.val
  have hcontrol : ∀ entry ∈ machine.controlEntries, Report.IsWhole (Report.word entry) := by
    have hwhole (name : List Char) (width number : Nat) (hname : Report.IsWhole name) :
        Report.IsWhole (Report.word (name, hexDigits width number)) :=
      Report.isWhole_word hname (Report.isWhole_hexDigits width number)
    have hnames : ∀ name ∈ [['P', 'C'], ['I'], ['D', 'T'], ['S', 'T']], Report.IsWhole name := by
      simp [Report.IsWhole, Report.isBlank]
    simp only [List.forall_mem_cons] at hnames
    obtain ⟨hcounter, hindex, hdelay, hsound, -⟩ := hnames
    simp only [controlEntries, List.forall_mem_cons]
    exact ⟨hwhole _ _ _ hcounter, hwhole _ _ _ hindex, hwhole _ _ _ hdelay, hwhole _ _ _ hsound,
      by simp⟩
  have hdepth : Report.IsWhole (Report.word machine.depthEntry) := by
    have hname : Report.IsWhole ['S', 'P'] := by simp [Report.IsWhole, Report.isBlank]
    exact Report.isWhole_word hname (Report.isWhole_decimal machine.stack.size)
  rw [toList_registerReport, Report.words_flatMap_append hregisters,
    Report.words_blank (by decide), Report.words_flatMap_append hcontrol,
    Report.words_word_append hdepth (by decide)]
  simp [Report.words]

/-- The names in the report are those that are expected. -/
theorem names_registerReport :
    (machine.registerEntries ++ machine.controlEntries ++ [machine.depthEntry]).map Prod.fst =
      RegisterView.names := by
  have hregisters : (List.finRange 16).map (fun register => 'V' :: hexDigits 1 register.val) =
      RegisterView.names.take 16 := by
    decide +kernel
  have hothers : [['P', 'C'], ['I'], ['D', 'T'], ['S', 'T'], ['S', 'P']] =
      RegisterView.names.drop 16 := by
    decide +kernel
  have hsplit : (machine.registerEntries ++ machine.controlEntries ++ [machine.depthEntry]).map
      Prod.fst = (List.finRange 16).map (fun register => 'V' :: hexDigits 1 register.val) ++
        [['P', 'C'], ['I'], ['D', 'T'], ['S', 'T'], ['S', 'P']] := by
    simp [registerEntries, controlEntries, depthEntry, Function.comp_def]
  rw [hsplit, hregisters, hothers, List.take_append_drop]

/-- The values of the general registers are read back. -/
theorem mapM_registerValues :
    (machine.registerEntries.map Prod.snd).mapM (Numeral.read? 16) =
      some (machine.registers.toList.map UInt8.toNat) := by
  have hvalues : machine.registers.toList = (List.finRange 16).map machine.register := by
    apply List.ext_getElem
    · simp
    · intro place _ _
      simp [register]
  have hread (registers : List Register) :
      (registers.map fun register => hexDigits 2 (machine.register register).toNat).mapM
          (Numeral.read? 16) =
        some (registers.map fun register => (machine.register register).toNat) := by
    induction registers with
    | nil => rfl
    | cons register rest ih =>
        rw [List.map_cons, List.mapM_cons, read?_hexDigits, ih]
        rfl
  rw [hvalues, List.map_map, registerEntries, List.map_map]
  exact hread (List.finRange 16)

/-- The report of the registers is read back as what it should show. -/
theorem read?_registerReport :
    RegisterView.read? machine.registerReport = some machine.registerView := by
  have hlength : (machine.registerEntries.map Prod.snd).length = 16 := by
    simp [registerEntries]
  have hregisters : (machine.registers.toList.map UInt8.toNat).map UInt8.ofNat =
      machine.registers.toList := by
    rw [List.map_map]
    exact List.map_id'' (fun byte => UInt8.ofNat_toNat) machine.registers.toList
  rw [RegisterView.read?, words_registerReport, ← machine.names_registerReport,
    Report.mapM_valueOf?, List.map_append, List.map_append, List.append_assoc, Option.bind_eq_bind,
    Option.bind_some, RegisterView.ofValues?, List.take_left' hlength, List.drop_left' hlength,
    mapM_registerValues]
  simp [controlEntries, depthEntry, read?_hexDigits, read?_decimal, hregisters, registerView]

/-! ## The picture -/

/-- The characters of a row of the picture. -/
def pixelRow (y : Nat) : List Char :=
  (List.range 64).map fun x => pixelChar (machine.screen.pixel x y)

theorem newline_not_mem_pixelRow (y : Nat) : '\n' ∉ machine.pixelRow y := by
  intro hmem
  obtain ⟨x, -, hpixel⟩ := List.mem_map.mp hmem
  unfold pixelChar at hpixel
  split at hpixel <;> cases hpixel

theorem toList_screenReport :
    machine.screenReport.toList =
      ((List.range 32).map machine.pixelRow).flatMap (· ++ ['\n']) := by
  rw [screenReport, String.toList_join, List.flatMap_map, List.flatMap_map]
  refine List.flatMap_congr fun y _ => ?_
  rw [screenLine, String.toList_append, String.toList_ofList]
  rfl

/-- The lines of the report are the rows of the picture. -/
theorem lines_screenReport :
    Listing.lines machine.screenReport.toList = (List.range 32).map machine.pixelRow := by
  rw [toList_screenReport, Listing.lines_flatMap]
  intro line hline
  obtain ⟨y, -, rfl⟩ := List.mem_map.mp hline
  exact machine.newline_not_mem_pixelRow y

end Machine

/-! ## Both reports -/

/-- What is promised about the reports of the registers and of the picture. -/
structure ShowsState (machine : Machine) : Prop where
  registers : RegisterView.read? machine.registerReport = some machine.registerView
  /-- Every line of the picture ends with a line feed. -/
  terminated : machine.screenReport.toList =
    (Listing.lines machine.screenReport.toList).flatMap (· ++ ['\n'])
  count : (Listing.lines machine.screenReport.toList).length = 32
  wide : ∀ line ∈ Listing.lines machine.screenReport.toList, line.length = 64
  /-- In line `y` the character in column `x` shows a pixel, which is also the one at place
  `x + y * 64` when the rows are put one behind the other. -/
  shown : ∀ x y, x < 64 → y < 32 → ∃ row,
    (Listing.lines machine.screenReport.toList)[y]? = some row ∧
      row[x]? = some (if machine.screen.pixel x y then '#' else '.') ∧
      machine.screen.display[x + y * 64]? = some (machine.screen.pixel x y)
  /-- Coordinates of 64 bits are reduced, and their low bits are the place of the pixel. -/
  wraps : ∀ x y : UInt64,
    machine.screen.pixel x.toNat y.toNat = machine.screen.pixel (x % 64).toNat (y % 32).toNat ∧
      machine.screen.display[((x &&& 63) + (y &&& 31) * 64).toNat]? =
        some (machine.screen.pixel x.toNat y.toNat)
  /-- Another machine with the same reports agrees on all that is shown. -/
  determined : ∀ other : Machine, other.registerReport = machine.registerReport →
    other.screenReport = machine.screenReport →
    other.registers = machine.registers ∧ other.counter = machine.counter ∧
      other.index = machine.index ∧ other.delay = machine.delay ∧ other.sound = machine.sound ∧
      other.stack.size = machine.stack.size ∧ other.screen = machine.screen ∧
      ∀ x y : UInt64, other.screen.pixel x.toNat y.toNat = machine.screen.pixel x.toNat y.toNat

namespace Machine

variable (machine : Machine)

/-- A character of the report shows whether a pixel is on. -/
theorem getElem?_pixelRow {x : Nat} (y : Nat) (hx : x < 64) :
    (machine.pixelRow y)[x]? = some (if machine.screen.pixel x y then '#' else '.') := by
  simp [pixelRow, hx, pixelChar]

theorem getElem?_lines_screenReport {y : Nat} (hy : y < 32) :
    (Listing.lines machine.screenReport.toList)[y]? = some (machine.pixelRow y) := by
  simp [lines_screenReport, hy]

/-- The place of a pixel is made of the low bits of its coordinates. -/
theorem toNat_pixelPlace (x y : UInt64) :
    ((x &&& 63) + (y &&& 31) * 64).toNat = x.toNat % 64 + y.toNat % 32 * 64 := by
  have hx : x.toNat &&& 63 = x.toNat % 64 := Nat.and_two_pow_sub_one_eq_mod x.toNat 6
  have hy : y.toNat &&& 31 = y.toNat % 32 := Nat.and_two_pow_sub_one_eq_mod y.toNat 5
  simp only [UInt64.toNat_add, UInt64.toNat_mul, UInt64.toNat_and, UInt64.reduceToNat, hx, hy]
  omega

/-- The same picture is reported for the same pixels only. -/
theorem pixel_eq_of_screenReport_eq {other : Machine}
    (hscreen : other.screenReport = machine.screenReport) (x y : Nat) :
    other.screen.pixel x y = machine.screen.pixel x y := by
  have hx : x % 64 < 64 := Nat.mod_lt x (by decide)
  have hy : y % 32 < 32 := Nat.mod_lt y (by decide)
  have hrow : other.pixelRow (y % 32) = machine.pixelRow (y % 32) := by
    have hline := other.getElem?_lines_screenReport hy
    rw [hscreen, machine.getElem?_lines_screenReport hy] at hline
    exact (Option.some.inj hline).symm
  have hchar := other.getElem?_pixelRow (y % 32) hx
  rw [hrow, machine.getElem?_pixelRow (y % 32) hx, Screen.pixel_mod, Screen.pixel_mod] at hchar
  -- The two characters tell whether the pixel is on.
  cases hother : other.screen.pixel x y <;> cases hown : machine.screen.pixel x y <;>
    simp_all

/-- The reports of the registers and of the picture can be read back, so they determine
what they show. -/
theorem showsState : ShowsState machine where
  registers := machine.read?_registerReport
  terminated := by rw [lines_screenReport, toList_screenReport]
  count := by rw [lines_screenReport, List.length_map, List.length_range]
  wide := by
    intro line hline
    rw [lines_screenReport] at hline
    obtain ⟨y, -, rfl⟩ := List.mem_map.mp hline
    rw [pixelRow, List.length_map, List.length_range]
  shown := fun x y hx hy =>
    ⟨machine.pixelRow y, machine.getElem?_lines_screenReport hy, machine.getElem?_pixelRow y hx,
      machine.screen.getElem?_display hx hy⟩
  wraps := by
    intro x y
    have hx : x.toNat % 64 < 64 := Nat.mod_lt _ (by decide)
    have hy : y.toNat % 32 < 32 := Nat.mod_lt _ (by decide)
    refine ⟨?_, ?_⟩
    · rw [UInt64.toNat_mod, UInt64.toNat_mod]
      exact (machine.screen.pixel_mod x.toNat y.toNat).symm
    · rw [toNat_pixelPlace, machine.screen.getElem?_display hx hy, Screen.pixel_mod]
  determined := by
    intro other hregisters hscreen
    have hview : other.registerView = machine.registerView := by
      have hread := other.read?_registerReport
      rw [hregisters, machine.read?_registerReport] at hread
      exact (Option.some.inj hread).symm
    refine ⟨?_, congrArg RegisterView.counter hview, congrArg RegisterView.index hview,
      congrArg RegisterView.delay hview, congrArg RegisterView.sound hview,
      congrArg RegisterView.depth hview,
      Screen.eq_of_pixel_eq fun x y _ _ => machine.pixel_eq_of_screenReport_eq hscreen x y,
      fun x y => machine.pixel_eq_of_screenReport_eq hscreen x.toNat y.toNat⟩
    exact Vector.toList_inj.mp (congrArg RegisterView.registers hview)

/-- A depth that needs three digits, next to registers of a fixed width. -/
example : { initial with stack := Array.replicate 260 0x200, index := 0xFFFF }.registerReport =
    "V0=00 V1=00 V2=00 V3=00 V4=00 V5=00 V6=00 V7=00 V8=00 V9=00 VA=00 VB=00 VC=00 VD=00 "
      ++ "VE=00 VF=00 \nPC=0200 I=FFFF DT=00 ST=00 SP=260\n" := by
  decide +kernel

end Machine
end ChipEight
