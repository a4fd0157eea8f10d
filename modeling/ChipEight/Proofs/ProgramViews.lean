import Mathlib
import ChipEight.Machine.Report
import ChipEight.Proofs.Listing

/-!
# Four views of a program

A program in memory is looked at in four ways: a step fetches a word, the log traces it
with its mnemonic, the memory report shows it with its address, and the listing shows it
as assembly text.  All four show the same word at the same address, whatever the rest of
memory holds, up to the last word of the largest program (`showsProgram`).

The report and the listing are compared line by line.  Their lines are told apart by
where their bytes come from: every second byte of memory, and every two bytes of the
program.
-/

namespace ChipEight

/-! ## Lines of the memory report -/

namespace Memory

theorem getElem?_toList (memory : Memory) {address : Nat} (haddress : address < 4096) :
    memory.toList[address]? = some (memory.read address) := by
  simp [toList, read, Nat.mod_eq_of_lt haddress, haddress]

/-- A program that is in memory is read byte by byte. -/
theorem read_of_readAll {memory : Memory} {start place : Nat} {program : List UInt8} {byte : UInt8}
    (hholds : memory.readAll start program.length = program)
    (hbyte : program[place]? = some byte) : memory.read (start + place) = byte := by
  have hplace := (List.getElem?_eq_some_iff.mp hbyte).1
  rw [← hholds, readAll] at hbyte
  simpa [hplace] using hbyte

end Memory

namespace Machine

variable (machine : Machine)

theorem length_reportedBytes (count : Nat) :
    (machine.reportedBytes count).length = (min count 3584 + 1) / 2 := by
  simp [reportedBytes, length_everySecond, Memory.length_toList, programStart]

theorem getElem?_reportedBytes {place count : Nat} (hcount : 2 * place < count)
    (hplace : programStart + 2 * place < 4096) :
    (machine.reportedBytes count)[place]? =
      some (machine.memory.read (programStart + 2 * place), programStart + 2 * place) := by
  rw [reportedBytes, getElem?_everySecond, List.getElem?_take_of_lt hcount, List.getElem?_drop,
    List.getElem?_zipIdx, Memory.getElem?_toList _ hplace]
  simp

/-- A line of the memory report without its line feed. -/
def memoryRow (byte : UInt8) (address : Nat) : List Char :=
  Numeral.hexDigits 4 address ++
    ':' :: ' ' :: (Numeral.hexDigits 2 byte.toNat ++
      Numeral.hexDigits 2 (machine.memory.read (address + 1)).toNat)

theorem toList_memoryLine (byte : UInt8) (address : Nat) :
    (machine.memoryLine byte address).toList = machine.memoryRow byte address ++ ['\n'] := by
  simp [memoryLine, memoryRow, Numeral.hex]

theorem newline_not_mem_memoryRow (byte : UInt8) (address : Nat) :
    '\n' ∉ machine.memoryRow byte address := by
  simp [memoryRow, Listing.newline_not_mem_hexDigits]

theorem toList_memoryReport (count : Nat) :
    (machine.memoryReport count).toList =
      ((machine.reportedBytes count).map fun (byte, address) =>
        machine.memoryRow byte address).flatMap (· ++ ['\n']) := by
  rw [memoryReport, List.flatMap_map]
  induction machine.reportedBytes count with
  | nil => rfl
  | cons entry rest ih =>
      rw [List.map_cons, String.join_cons, String.toList_append, ih, List.flatMap_cons,
        toList_memoryLine]

theorem lines_memoryReport (count : Nat) :
    Listing.lines (machine.memoryReport count).toList =
      (machine.reportedBytes count).map fun (byte, address) => machine.memoryRow byte address := by
  rw [toList_memoryReport, Listing.lines_flatMap]
  intro line hline
  obtain ⟨⟨byte, address⟩, -, rfl⟩ := List.mem_map.mp hline
  exact machine.newline_not_mem_memoryRow byte address

end Machine

/-! ## Lines of the listing -/

namespace Listing

/-- The line of a word without its line feed. -/
def wordRow (address : Nat) (word : Word) : List Char :=
  (columns address word).toList ++ word.assembly.toList

theorem toList_wordLine (address : Nat) (word : Word) :
    (wordLine address word).toList = wordRow address word ++ ['\n'] := by
  rw [wordLine_eq]
  simp [wordRow]

theorem newline_not_mem_wordRow (address : Nat) (word : Word) : '\n' ∉ wordRow address word := by
  have haddress := newline_not_mem_hexDigits 4 address
  have hword := newline_not_mem_hexDigits 4 word.value.toNat
  have hassembly := newline_not_mem_assembly word
  simp [wordRow, columns, Word.text, Numeral.hex, haddress, hword, hassembly]

/-- Two bytes of a program have a line of the listing. -/
theorem getElem?_lines {address place : Nat} {program : List UInt8} {high low : UInt8}
    (hhigh : program[2 * place]? = some high) (hlow : program[2 * place + 1]? = some low) :
    (lines (String.join (linePieces address program).flatten).toList)[place]? =
      some (wordRow (address + 2 * place) (Word.ofBytes high low)) := by
  fun_induction linePieces address program generalizing place with
  | case1 => simp at hhigh
  | case2 => simp at hlow
  | case3 address first second rest ih =>
      have hfirst := toList_wordLine address (Word.ofBytes first second)
      rw [wordLine] at hfirst
      rw [List.flatten_cons, String.join_append, String.toList_append, hfirst, List.append_assoc,
        List.singleton_append, lines_cons (newline_not_mem_wordRow _ _)]
      cases place with
      | zero =>
          rw [← Option.some.inj hhigh, ← Option.some.inj hlow]
          rfl
      | succ place =>
          rw [Nat.mul_succ, List.getElem?_cons_succ, List.getElem?_cons_succ] at hhigh hlow
          rw [List.getElem?_cons_succ, ih hhigh hlow, Nat.mul_succ, Nat.add_assoc,
            Nat.add_comm 2]

/-! ## One word in every view -/

theorem length_hexDigits_four {number : Nat} (hnumber : number < 65536) :
    (Numeral.hexDigits 4 number).length = 4 := by
  have hsplit : 256 * (number / 256) + number % 256 = number := by omega
  rw [← hsplit, Numeral.hexDigits_four _ (by omega), Numeral.hexDigits_two (by omega),
    Numeral.hexDigits_two (by omega)]
  rfl

/-- The report shows what the listing shows in its first two columns. -/
theorem take_wordRow {address : Nat} (haddress : address < 65536) (word : Word) :
    (wordRow address word).take 10 =
      Numeral.hexDigits 4 address ++ ':' :: ' ' :: Numeral.hexDigits 4 word.value.toNat := by
  have hfirst := length_hexDigits_four haddress
  have hsecond := length_hexDigits_four word.value.toNat_lt
  have hrow : wordRow address word =
      (Numeral.hexDigits 4 address ++ ':' :: ' ' :: Numeral.hexDigits 4 word.value.toNat) ++
        ' ' :: word.assembly.toList := by
    simp [wordRow, columns, Word.text, Numeral.hex]
  rw [hrow, List.take_append_of_le_length (by simp [hfirst, hsecond]), List.take_of_length_le]
  simp [hfirst, hsecond]

end Listing

theorem Word.toNat_ofBytes (high low : UInt8) :
    (Word.ofBytes high low).value.toNat = 256 * high.toNat + low.toNat := by
  have hhigh := high.toNat_lt
  have hlow := low.toNat_lt
  rw [ofBytes, UInt16.toNat_ofNat']
  omega

theorem rdropWhile_append_replicate (text : List Char) (count : Nat) :
    (text ++ List.replicate count ' ').rdropWhile (· = ' ') = text.rdropWhile (· = ' ') := by
  induction count with
  | zero => simp
  | succ count ih =>
      rw [List.replicate_succ', ← List.append_assoc, List.rdropWhile_concat_pos _ _ _ (by simp), ih]

theorem Notice.text_executing (address : UInt16) (word : Word) (mnemonic : String) :
    (Notice.executing address word mnemonic).text =
      Listing.columns address.toNat word ++ Numeral.padRight 4 mnemonic :=
  rfl

/-- What the log says of an instruction is the beginning of its line in a listing, but for
the blanks at its end. -/
theorem Notice.executing_prefix_wordRow (address : UInt16) {word : Word} {form : Form}
    (hform : word.form? = some form) :
    (Notice.executing address word form.mnemonic).text.toList.rdropWhile (· = ' ') <+:
      Listing.wordRow address.toNat word := by
  obtain ⟨blanks, hassembly⟩ := Assembly.exists_blanks form word
  have htext : (Notice.executing address word form.mnemonic).text.toList =
      ((Listing.columns address.toNat word).toList ++ form.mnemonic.toList) ++
        List.replicate (4 - form.mnemonic.length) ' ' := by
    rw [Notice.text_executing, Numeral.padRight]
    simp only [String.toList_append, String.toList_ofList, List.append_assoc]
  rw [htext, rdropWhile_append_replicate]
  refine (List.rdropWhile_prefix _ _).trans ?_
  rw [Listing.wordRow, Word.assembly, hform]
  dsimp only
  rw [hassembly, ← List.append_assoc]
  exact List.prefix_append _ _

/-! ## All views together -/

namespace Interpreter

variable {σ : Type} [RandomSource σ]

/-- What is promised about the views of a program that is in memory. -/
structure ShowsProgram (interpreter : Interpreter σ) (program : List UInt8) : Prop where
  /-- A step at an address fetches and executes the two bytes of the program. -/
  fetched : ∀ (place : Nat) (high low : UInt8),
    program[2 * place]? = some high → program[2 * place + 1]? = some low →
    interpreter.machine.counter = UInt16.ofNat (programStart + 2 * place) →
    interpreter.machine.currentWord = Word.ofBytes high low ∧
      interpreter.step =
        (interpreter.onMachine Machine.advance).executeWord (Word.ofBytes high low)
  /-- A line of the memory report is the beginning of a line of the listing. -/
  reported : ∀ place count : Nat, 2 * place + 1 < program.length → 2 * place < count →
    ∃ line, (Listing.lines (Listing.text program).toList)[place]? = some line ∧
      (Listing.lines (interpreter.machine.memoryReport count).toList)[place]? =
        some (line.take 10)
  /-- So is what the log traces of a step, if the word means an instruction. -/
  traced : ∀ place : Nat, 2 * place + 1 < program.length →
    interpreter.machine.counter = UInt16.ofNat (programStart + 2 * place) →
    interpreter.machine.currentWord.decode ≠ none →
    ∃ line notice, (Listing.lines (Listing.text program).toList)[place]? = some line ∧
      (interpreter.notices .step).filter (·.level = .trace) = [notice] ∧
      notice.text.toList.rdropWhile (· = ' ') <+: line
  /-- The report has a line for every two bytes that are asked for and exist. -/
  count : ∀ count : Nat,
    (Listing.lines (interpreter.machine.memoryReport count).toList).length =
      (min count 3584 + 1) / 2

/-- A step with an instruction is traced once, also if it fails. -/
theorem trace_step {interpreter : Interpreter σ} {form : Form}
    (hform : interpreter.machine.currentWord.form? = some form) :
    (interpreter.notices .step).filter (·.level = .trace) =
      [.executing interpreter.machine.counter interpreter.machine.currentWord form.mnemonic] := by
  have hannounced : interpreter.announcement =
      .executing interpreter.machine.counter interpreter.machine.currentWord form.mnemonic := by
    simp only [announcement, hform]
  rw [notices, runNotices, hannounced]
  generalize interpreter.step = outcome
  obtain ⟨answer, after⟩ := outcome
  cases answer with
  | ok flow => simp [runNotices, Notice.level]
  | error fault => simp [Notice.level]

section Holds

variable {machine fresh loaded : Machine} {program : List UInt8} {place : Nat} {high low : UInt8}

theorem counter_of_accepted (haccepted : fresh.load program = .ok loaded)
    (hplace : 2 * place + 1 < program.length) :
    (UInt16.ofNat (programStart + 2 * place)).toNat = programStart + 2 * place ∧
      programStart + 2 * place < 4096 := by
  obtain ⟨-, hlength, -⟩ := (Machine.load_eq_ok_iff _ _ _).mp haccepted
  have hlimit : program.length ≤ 3583 := hlength
  have hstart : programStart = 512 := rfl
  refine ⟨?_, by omega⟩
  rw [UInt16.toNat_ofNat', Nat.mod_eq_of_lt]
  omega

/-- A machine at a word of the program has it as its current word. -/
theorem currentWord_of_holds
    (hholds : machine.memory.readAll programStart program.length = program)
    (hhigh : program[2 * place]? = some high) (hlow : program[2 * place + 1]? = some low)
    (hat : machine.counter.toNat = programStart + 2 * place) :
    machine.currentWord = Word.ofBytes high low := by
  rw [Machine.currentWord, hat, Nat.add_assoc, Memory.read_of_readAll hholds hhigh,
    Memory.read_of_readAll hholds hlow]

/-- Two bytes of the program have a line of the memory report. -/
theorem getElem?_memoryReport
    (hholds : machine.memory.readAll programStart program.length = program)
    (hhigh : program[2 * place]? = some high) (hlow : program[2 * place + 1]? = some low)
    (hinside : programStart + 2 * place < 4096) {count : Nat} (hcount : 2 * place < count) :
    (Listing.lines (machine.memoryReport count).toList)[place]? =
      some ((Listing.wordRow (programStart + 2 * place) (Word.ofBytes high low)).take 10) := by
  rw [Machine.lines_memoryReport, List.getElem?_map,
    Machine.getElem?_reportedBytes _ hcount hinside, Option.map_some,
    Listing.take_wordRow (by omega)]
  dsimp only [Machine.memoryRow]
  rw [Nat.add_assoc, Memory.read_of_readAll hholds hhigh, Memory.read_of_readAll hholds hlow,
    Word.toNat_ofBytes, Numeral.hexDigits_four _ low.toNat_lt]

end Holds

/-- The fetch, the trace, the memory report and the listing show the same program. -/
theorem showsProgram {interpreter : Interpreter σ} {fresh loaded : Machine}
    {program : List UInt8} (haccepted : fresh.load program = .ok loaded)
    (hholds : interpreter.machine.memory.readAll programStart program.length = program) :
    ShowsProgram interpreter program := by
  have hbytes (place : Nat) (hplace : 2 * place + 1 < program.length) :
      ∃ high low, program[2 * place]? = some high ∧ program[2 * place + 1]? = some low :=
    ⟨_, _, List.getElem?_eq_getElem (Nat.lt_of_succ_lt hplace), List.getElem?_eq_getElem hplace⟩
  constructor
  · intro place high low hhigh hlow hat
    have hcounter := counter_of_accepted haccepted (List.getElem?_eq_some_iff.mp hlow).1
    rw [← hat] at hcounter
    have hword := currentWord_of_holds hholds hhigh hlow hcounter.1
    refine ⟨hword, ?_⟩
    rw [step_eq_executeWord, hword]
    rfl
  · intro place count hplace hcount
    obtain ⟨high, low, hhigh, hlow⟩ := hbytes place hplace
    have hinside := (counter_of_accepted haccepted hplace).2
    exact ⟨_, Listing.getElem?_lines hhigh hlow,
      getElem?_memoryReport hholds hhigh hlow hinside hcount⟩
  · intro place hplace hat hknown
    obtain ⟨high, low, hhigh, hlow⟩ := hbytes place hplace
    have hcounter := counter_of_accepted haccepted hplace
    rw [← hat] at hcounter
    have hword := currentWord_of_holds hholds hhigh hlow hcounter.1
    obtain ⟨form, hform⟩ : ∃ form, interpreter.machine.currentWord.form? = some form := by
      rw [← Option.ne_none_iff_exists']
      intro hnone
      exact hknown (by rw [Word.decode, hnone, Option.map_none])
    refine ⟨_, _, Listing.getElem?_lines hhigh hlow, trace_step hform, ?_⟩
    rw [← hword, ← hcounter.1]
    exact Notice.executing_prefix_wordRow interpreter.machine.counter hform
  · intro count
    rw [Machine.lines_memoryReport, List.length_map, Machine.length_reportedBytes]

/-- A program with a word that means nothing and a byte left over, and a report that ends
within a word. -/
theorem showsProgram_oddLength :
    let program : List UInt8 := [0x6A, 0x02, 0xFF, 0xFF, 0x80]
    let interpreter : Interpreter CountingSource :=
      ((new ⟨0, 1⟩ none).perform (.load program)).2
    (Machine.initial.load program).toOption = some interpreter.machine ∧
      interpreter.machine.memory.readAll programStart 5 = program ∧
      interpreter.machine.currentWord = ⟨0x6A02⟩ ∧
      (Listing.lines (interpreter.machine.memoryReport 3).toList)[1]? =
        some "0202: FFFF".toList ∧
      (Listing.lines (interpreter.machine.memoryReport 3).toList).length = 2 ∧
      ∃ notice, (interpreter.notices .step).filter (·.level = .trace) = [notice] ∧
        notice.text.toList.rdropWhile (· = ' ') <+: "0200: 6A02 LD   VA, 0x02".toList := by
  intro program interpreter
  have haccepted : Machine.initial.load program = .ok interpreter.machine := rfl
  have hholds : interpreter.machine.memory.readAll programStart program.length = program := by
    decide +kernel
  have hat : interpreter.machine.counter = UInt16.ofNat (programStart + 2 * 0) := by
    decide +kernel
  have hknown : interpreter.machine.currentWord.decode ≠ none := by decide +kernel
  have hlisting : Listing.lines (Listing.text program).toList =
      ["0200: 6A02 LD   VA, 0x02".toList, "0202: FFFF DW 0xFFFF".toList,
        "0204: 80   DB 0x80".toList] := by
    decide +kernel
  have hshows := showsProgram haccepted hholds
  refine ⟨rfl, hholds, (hshows.fetched 0 0x6A 0x02 rfl rfl hat).1, ?_, hshows.count 3, ?_⟩
  · obtain ⟨line, hline, hreport⟩ := hshows.reported 1 3 (by decide) (by decide)
    rw [hlisting] at hline
    rw [hreport, ← Option.some.inj hline]
    rfl
  · obtain ⟨line, notice, hline, htrace, hprefix⟩ := hshows.traced 0 (by decide) hat hknown
    rw [hlisting] at hline
    rw [← Option.some.inj hline] at hprefix
    exact ⟨notice, htrace, hprefix⟩

end Interpreter
end ChipEight
