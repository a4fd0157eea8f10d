import Mathlib
import ChipEight.Listing
import ChipEight.Operation
import ChipEight.Proofs.Numeral

/-!
# Reading assembly text

What a listing says about a word can be read back.  A reader of assembly text
takes the mnemonic up to the first blank and the operands between the commas
behind it, and looks at nothing else; in particular it does not know the word.
From the text of a word it reads the instruction that the word means
(`read?_assembly`), so everything that an instruction depends on is printed.

Five mnemonics stand for several instructions.  These differ in the kinds of
their operands: registers, numbers, and names of what is not a register.
-/

namespace ChipEight

open Register

/-- A word in assembly text.  A word without a meaning is data. -/
def Word.assembly (word : Word) : String :=
  match word.form? with
  | some form => String.join (form.pieces word)
  | none => "DW 0x" ++ word.text

namespace Listing

/-- The columns of a line in front of the assembly text. -/
def columns (address : Nat) (word : Word) : String :=
  Numeral.hex 4 address ++ ": " ++ word.text ++ " "

theorem wordLine_eq (address : Nat) (word : Word) :
    wordLine address word = columns address word ++ (word.assembly ++ "\n") := by
  apply String.toList_inj.mp
  rw [wordLine, wordPieces, Word.assembly]
  cases word.form? with
  | none => simp [columns]
  | some form => simp [columns]

end Listing

namespace Assembly

/-! ## The reader -/

/-- An operand in assembly text. -/
inductive Operand where
  | register (register : Register)
  | number (value : Nat)
  | name (text : String)
deriving DecidableEq

/-- The register that a text names. -/
def register? : List Char → Option Register
  | ['V', digit] => (Numeral.digitIn? 16 digit).map (Fin.ofNat 16)
  | _ => none

/-- The number that a text writes, in base sixteen behind a mark and otherwise in
base ten. -/
def number? : List Char → Option Nat
  | '0' :: 'x' :: digits => Numeral.read? 16 digits
  | digits => Numeral.read? 10 digits

/-- The operand that a text writes. -/
def Operand.read (text : List Char) : Operand :=
  match register? text with
  | some found => .register found
  | none =>
    match number? text with
    | some value => .number value
    | none => .name (String.ofList text)

/-- The operands that a text writes.  They are separated by commas, and blanks do
not matter. -/
def operands (text : List Char) : List Operand :=
  match text.filter (· ≠ ' ') with
  | [] => []
  | written => (written.splitOn ',').map Operand.read

/-- A number that fits into a field. -/
def below? (bound number : Nat) : Option (Fin bound) :=
  if hfits : number < bound then some ⟨number, hfits⟩ else none

/-- A number that fits into a byte. -/
def byte? (number : Nat) : Option UInt8 :=
  if number < 256 then some (UInt8.ofNat number) else none

/-- The instruction with a mnemonic and operands. -/
def instruction? (mnemonic : String) : List Operand → Option Instruction
  | [] =>
    match mnemonic with
    | "CLS" => some .clearScreen
    | "RET" => some .ret
    | _ => none
  | [.number a] =>
    match mnemonic with
    | "JP" => (below? 4096 a).map .jump
    | "CALL" => (below? 4096 a).map .call
    | _ => none
  | [.register x] =>
    match mnemonic with
    | "SHR" => some (.shiftRight x)
    | "SHL" => some (.shiftLeft x)
    | "SKP" => some (.skipIfDown x)
    | "SKNP" => some (.skipUnlessDown x)
    | _ => none
  | [.register x, .number a] =>
    match mnemonic with
    | "JP" => if x = 0 then (below? 4096 a).map .jumpOffset else none
    | "SE" => (byte? a).map (.skipIfEqual x)
    | "SNE" => (byte? a).map (.skipUnlessEqual x)
    | "LD" => (byte? a).map (.load x)
    | "ADD" => (byte? a).map (.add x)
    | "RND" => (byte? a).map (.random x)
    | _ => none
  | [.register x, .register y] =>
    match mnemonic with
    | "SE" => some (.skipIfSame x y)
    | "SNE" => some (.skipUnlessSame x y)
    | "LD" => some (.copy x y)
    | "OR" => some (.orWith x y)
    | "AND" => some (.andWith x y)
    | "XOR" => some (.xorWith x y)
    | "ADD" => some (.addRegister x y)
    | "SUB" => some (.subtract x y)
    | "SUBN" => some (.subtractFrom x y)
    | _ => none
  | [.register x, .name source] =>
    match mnemonic, source with
    | "LD", "DT" => some (.readDelay x)
    | "LD", "K" => some (.awaitKey x)
    | "LD", "[I]" => some (.loadRegisters x)
    | _, _ => none
  | [.name target, .register x] =>
    match mnemonic, target with
    | "LD", "DT" => some (.setDelay x)
    | "LD", "ST" => some (.setSound x)
    | "LD", "F" => some (.pointAtGlyph x)
    | "LD", "B" => some (.storeDecimal x)
    | "LD", "[I]" => some (.storeRegisters x)
    | "ADD", "I" => some (.addIndex x)
    | _, _ => none
  | [.name target, .number a] =>
    match mnemonic, target with
    | "LD", "I" => (below? 4096 a).map .setIndex
    | _, _ => none
  | [.register x, .register y, .number a] =>
    match mnemonic with
    | "DRW" => (below? 16 a).map (.draw x y)
    | _ => none
  | _ => none

/-- The instruction that assembly text writes, if any. -/
def read? (text : List Char) : Option Instruction :=
  instruction? (String.ofList (text.takeWhile (· ≠ ' '))) (operands (text.dropWhile (· ≠ ' ')))

/-! ## Operands in text -/

/-- A text that is read as an operand, also among others. -/
structure Writes (text : List Char) (operand : Operand) : Prop where
  read : Operand.read text = operand
  nonempty : text ≠ []
  noBlank : ' ' ∉ text
  noComma : ',' ∉ text

instance (text : List Char) (operand : Operand) : Decidable (Writes text operand) :=
  decidable_of_iff
    (Operand.read text = operand ∧ text ≠ [] ∧ ' ' ∉ text ∧ ',' ∉ text)
    ⟨fun ⟨hread, hnonempty, hblank, hcomma⟩ => ⟨hread, hnonempty, hblank, hcomma⟩,
      fun hwrites => ⟨hwrites.read, hwrites.nonempty, hwrites.noBlank, hwrites.noComma⟩⟩

theorem writes_register (register : Register) :
    Writes ("V" ++ Numeral.hex 1 register.val).toList (.register register) := by
  revert register
  decide +kernel

theorem writes_height (height : Fin 16) :
    Writes (Numeral.decimal height.val).toList (.number height.val) := by
  revert height
  decide +kernel

theorem writes_hex (width number : Nat) :
    Writes ("0x" ++ Numeral.hex width number).toList (.number number) := by
  have htext : ("0x" ++ Numeral.hex width number).toList =
      '0' :: 'x' :: Numeral.hexDigits width number := by
    simp [Numeral.hex]
  rw [htext]
  exact {
    read := by
      have hnumber : number? ('0' :: 'x' :: Numeral.hexDigits width number) = some number :=
        Numeral.read?_hexDigits width number
      rw [Operand.read, hnumber]
      rfl
    nonempty := List.cons_ne_nil _ _
    noBlank := by simpa using Numeral.not_mem_hexDigits (by decide) width number
    noComma := by simpa using Numeral.not_mem_hexDigits (by decide) width number }

theorem nonblank_of_not_mem {text : List Char} (hfree : ' ' ∉ text) :
    ∀ c ∈ text, decide (c ≠ ' ') = true := by
  intro c hc
  exact decide_eq_true fun hsame => hfree (hsame ▸ hc)

/-- Without its blanks, a list of operands has only commas between them. -/
theorem filter_intercalate {texts : List (List Char)} (hblank : ∀ text ∈ texts, ' ' ∉ text) :
    (List.intercalate [',', ' '] texts).filter (· ≠ ' ') = List.intercalate [','] texts := by
  have hkept {text : List Char} (hfree : ' ' ∉ text) : text.filter (· ≠ ' ') = text :=
    List.filter_eq_self.mpr (nonblank_of_not_mem hfree)
  induction texts with
  | nil => rfl
  | cons first rest ih =>
      obtain ⟨hfirst, hrest⟩ := List.forall_mem_cons.mp hblank
      cases rest with
      | nil => rw [List.intercalate_singleton, List.intercalate_singleton, hkept hfirst]
      | cons second others =>
          rw [List.intercalate_cons_cons, List.intercalate_cons_cons, List.filter_append,
            List.filter_append, hkept hfirst, ih hrest]
          rfl

theorem map_read_of_writes {texts : List (List Char)} {written : List Operand}
    (hwrites : List.Forall₂ Writes texts written) : texts.map Operand.read = written := by
  induction hwrites with
  | nil => rfl
  | cons hfirst _ ih => rw [List.map_cons, hfirst.read, ih]

theorem exists_writes_of_mem {texts : List (List Char)} {written : List Operand}
    (hwrites : List.Forall₂ Writes texts written) :
    ∀ text ∈ texts, ∃ operand, Writes text operand := by
  induction hwrites with
  | nil => exact fun text htext => nomatch htext
  | cons hfirst _ ih => exact List.forall_mem_cons.mpr ⟨⟨_, hfirst⟩, ih⟩

/-- Operands are read back from their texts, with commas between them and after any
number of blanks. -/
theorem operands_of_writes (blanks : Nat) {texts : List (List Char)} {written : List Operand}
    (hwrites : List.Forall₂ Writes texts written) :
    operands (List.replicate blanks ' ' ++ List.intercalate [',', ' '] texts) = written := by
  have hall := exists_writes_of_mem hwrites
  have hblank : ∀ text ∈ texts, ' ' ∉ text := by
    intro text htext
    obtain ⟨operand, hwritten⟩ := hall text htext
    exact hwritten.noBlank
  have hcomma : ∀ text ∈ texts, ',' ∉ text := by
    intro text htext
    obtain ⟨operand, hwritten⟩ := hall text htext
    exact hwritten.noComma
  have hfilter : (List.replicate blanks ' ' ++ List.intercalate [',', ' '] texts).filter
      (· ≠ ' ') = List.intercalate [','] texts := by
    rw [List.filter_append, filter_intercalate hblank]
    simp
  rw [operands, hfilter]
  cases texts with
  | nil =>
      cases hwrites
      rfl
  | cons first rest =>
      have hsplit := List.splitOn_intercalate ',' hcomma (List.cons_ne_nil first rest)
      obtain ⟨operand, hfirst⟩ := hall first List.mem_cons_self
      have hnonempty : List.intercalate [','] (first :: rest) ≠ [] := by
        cases rest with
        | nil => simpa using hfirst.nonempty
        | cons second others => simp [List.intercalate_cons_cons]
      split
      next hempty => exact absurd hempty hnonempty
      next => rw [hsplit, map_read_of_writes hwrites]

/-! ## Lines of the table -/

/-- The operands of a word in a layout. -/
def layoutOperands (word : Word) : Layout → List Operand
  | .none => []
  | .address => [.number word.nnn.val]
  | .offsetAddress => [.register 0, .number word.nnn.val]
  | .indexAddress => [.name "I", .number word.nnn.val]
  | .registerByte => [.register word.x, .number word.nn.toNat]
  | .registerPair => [.register word.x, .register word.y]
  | .registerPairNibble => [.register word.x, .register word.y, .number word.n.val]
  | .register => [.register word.x]
  | .registerFrom source => [.register word.x, .name source]
  | .intoRegister target => [.name target, .register word.x]

/-- The names that a layout writes itself. -/
def layoutNames : Layout → List String
  | .registerFrom source => [source]
  | .intoRegister target => [target]
  | _ => []

/-- What a layout writes is read back as its operands, with a blank in front if there
are any. -/
theorem exists_texts (word : Word) (layout : Layout)
    (hnames : ∀ name ∈ layoutNames layout, Writes name.toList (.name name)) :
    ∃ blanks texts, (String.join (layout.pieces word)).toList =
        List.replicate blanks ' ' ++ List.intercalate [',', ' '] texts ∧
      (blanks = 0 → texts = []) ∧ List.Forall₂ Writes texts (layoutOperands word layout) := by
  have hx := writes_register word.x
  have hy := writes_register word.y
  have haddress := writes_hex 3 word.nnn.val
  have hbyte := writes_hex 2 word.nn.toNat
  have hoffset : Writes "V0".toList (.register 0) := writes_register 0
  have hindex : Writes "I".toList (.name "I") := by decide
  cases layout with
  | none => exact ⟨0, [], rfl, fun _ => rfl, .nil⟩
  | address => exact ⟨1, _, by simp [Layout.pieces], by simp, .cons haddress .nil⟩
  | offsetAddress =>
      exact ⟨1, _, by simp [Layout.pieces], by simp, .cons hoffset (.cons haddress .nil)⟩
  | indexAddress =>
      exact ⟨1, _, by simp [Layout.pieces], by simp, .cons hindex (.cons haddress .nil)⟩
  | registerByte =>
      exact ⟨1, _, by simp [Layout.pieces], by simp, .cons hx (.cons hbyte .nil)⟩
  | registerPair => exact ⟨1, _, by simp [Layout.pieces], by simp, .cons hx (.cons hy .nil)⟩
  | registerPairNibble =>
      have hheight := writes_height word.n
      exact ⟨1, _, by simp [Layout.pieces], by simp, .cons hx (.cons hy (.cons hheight .nil))⟩
  | register => exact ⟨1, _, by simp [Layout.pieces], by simp, .cons hx .nil⟩
  | registerFrom source =>
      have hsource := hnames source List.mem_cons_self
      exact ⟨1, _, by simp [Layout.pieces], by simp, .cons hx (.cons hsource .nil)⟩
  | intoRegister target =>
      have htarget := hnames target List.mem_cons_self
      exact ⟨1, _, by simp [Layout.pieces], by simp, .cons htarget (.cons hx .nil)⟩

/-- Behind the mnemonic of a form come blanks and the operands, or nothing. -/
theorem exists_blanks (form : Form) (word : Word) : ∃ blanks,
    (String.join (form.pieces word)).toList = form.mnemonic.toList ++
      (List.replicate blanks ' ' ++ (String.join (form.layout.pieces word)).toList) := by
  unfold Form.pieces
  split
  next hnone => exact ⟨0, by simp [hnone, Layout.pieces]⟩
  next => exact ⟨4 - form.mnemonic.length, by simp [Numeral.padRight]⟩

/-- A mnemonic ends at the first blank. -/
theorem span_mnemonic {mnemonic : List Char} (hmnemonic : ' ' ∉ mnemonic) {rest : List Char}
    (hrest : ∀ c ∈ rest.head?, c = ' ') :
    (mnemonic ++ rest).takeWhile (· ≠ ' ') = mnemonic ∧
      (mnemonic ++ rest).dropWhile (· ≠ ' ') = rest := by
  have hall := nonblank_of_not_mem hmnemonic
  rw [List.takeWhile_append_of_pos hall, List.dropWhile_append_of_pos hall]
  cases rest with
  | nil => simp
  | cons c others =>
      have hblank : c = ' ' := hrest c rfl
      simp [hblank]

theorem names_of_mem : ∀ form ∈ Form.table, ' ' ∉ form.mnemonic.toList ∧
    ∀ name ∈ layoutNames form.layout, Writes name.toList (.name name) := by
  decide +kernel

theorem below?_val {bound : Nat} (number : Fin bound) : below? bound number.val = some number :=
  dif_pos number.isLt

theorem byte?_toNat (byte : UInt8) : byte? byte.toNat = some byte := by
  rw [byte?, if_pos byte.toNat_lt, UInt8.ofNat_toNat]

/-- In every line of the table the mnemonic and the operands say what is meant. -/
theorem instruction?_of_mem {form : Form} (hform : form ∈ Form.table) (word : Word) :
    instruction? form.mnemonic (layoutOperands word form.layout) = some (form.meaning word) := by
  fin_cases hform <;> simp [instruction?, layoutOperands, below?_val, byte?_toNat]

theorem read?_pieces {form : Form} (hform : form ∈ Form.table) (word : Word) :
    read? (String.join (form.pieces word)).toList = some (form.meaning word) := by
  obtain ⟨hmnemonic, hnames⟩ := names_of_mem form hform
  obtain ⟨blanks, texts, htexts, hzero, hoperands⟩ := exists_texts word form.layout hnames
  obtain ⟨fill, htext⟩ := exists_blanks form word
  rw [htexts, ← List.append_assoc (List.replicate fill ' '),
    List.replicate_append_replicate] at htext
  have hrest : ∀ c ∈ (List.replicate (fill + blanks) ' ' ++
      List.intercalate [',', ' '] texts).head?, c = ' ' := by
    cases hcount : fill + blanks with
    | zero => simp [hzero (by omega)]
    | succ count => simp [List.replicate_succ]
  obtain ⟨htake, hdrop⟩ := span_mnemonic hmnemonic hrest
  rw [read?, htext, htake, hdrop, operands_of_writes _ hoperands, String.ofList_toList,
    instruction?_of_mem hform]

/-- No instruction has the mnemonic of data. -/
theorem read?_data (rest : List Char) : read? ('D' :: 'W' :: ' ' :: rest) = none := by
  have hmnemonic : ('D' :: 'W' :: ' ' :: rest).takeWhile (· ≠ ' ') = "DW".toList := by
    simp
  rw [read?, hmnemonic, String.ofList_toList]
  unfold instruction?
  split <;> rfl

/-- The assembly text of a word is read as the instruction that the word means. -/
theorem read?_assembly (word : Word) : read? word.assembly.toList = word.decode := by
  rw [Word.assembly, Word.decode]
  cases hform : word.form? with
  | none =>
      have htext : ("DW 0x" ++ word.text).toList = 'D' :: 'W' :: ' ' :: '0' :: 'x' ::
          word.text.toList := by
        simp
      dsimp only
      rw [htext, read?_data]
      rfl
  | some form => exact read?_pieces (List.mem_of_find?_eq_some hform) word

/-- A word whose line says that it is data means nothing. -/
theorem decode_eq_none_of_data {word : Word} {data : String}
    (htext : word.assembly ++ "\n" = "DW " ++ data) : word.decode = none := by
  have hchars : word.assembly.toList ++ ['\n'] = 'D' :: 'W' :: ' ' :: data.toList := by
    simpa using congrArg String.toList htext
  rw [← read?_assembly]
  -- The text without the end of its line still has the three characters.
  match hletters : word.assembly.toList with
  | [] => simp [hletters] at hchars
  | [_] => simp [hletters] at hchars
  | [_, _] => simp [hletters] at hchars
  | first :: second :: third :: rest =>
      simp only [hletters, List.cons_append, List.cons.injEq] at hchars
      obtain ⟨rfl, rfl, rfl, -⟩ := hchars
      exact read?_data rest

end Assembly

/-! ## Execution -/

namespace Interpreter

variable {σ : Type} [RandomSource σ]

/-- Execute a word that the program counter has passed. -/
def executeWord (interpreter : Interpreter σ) (word : Word) :
    Except Fault Flow × Interpreter σ :=
  match word.decode with
  | none => (.ok .plain, interpreter)
  | some instruction =>
    let (noise, source) := noiseFor interpreter.source instruction
    let (result, machine) := interpreter.machine.execute interpreter.limit noise instruction
    (result, { interpreter with machine, source })

/-- A step fetches the word, passes it and executes it. -/
theorem step_eq_executeWord (interpreter : Interpreter σ) :
    interpreter.step =
      { interpreter with machine := interpreter.machine.advance }.executeWord
        interpreter.machine.currentWord :=
  rfl

theorem executeWord_of_decode_eq (interpreter : Interpreter σ) {first second : Word}
    (hdecode : first.decode = second.decode) :
    interpreter.executeWord first = interpreter.executeWord second := by
  rw [executeWord, executeWord, hdecode]

theorem executeWord_of_decode_eq_none (interpreter : Interpreter σ) {word : Word}
    (hdecode : word.decode = none) : interpreter.executeWord word = (.ok .plain, interpreter) := by
  rw [executeWord, hdecode]

/-- What a line of a listing says behind its columns is the assembly text of the
word. -/
theorem eq_assembly_of_wordLine {address : Nat} {word : Word} {rest : String}
    (hline : Listing.wordLine address word = Listing.columns address word ++ rest) :
    rest = word.assembly ++ "\n" := by
  rw [Listing.wordLine_eq] at hline
  exact ((String.append_right_inj _).mp hline).symm

/-- What is listed is what is executed: two words whose lines say the same behind
the columns do the same to every interpreter, and a word that is listed as data
does nothing. -/
theorem executeWord_eq_of_listed {first second : Word} {firstAddress secondAddress : Nat}
    {rest : String}
    (hfirst : Listing.wordLine firstAddress first = Listing.columns firstAddress first ++ rest)
    (hsecond : Listing.wordLine secondAddress second =
      Listing.columns secondAddress second ++ rest)
    (interpreter : Interpreter σ) :
    interpreter.executeWord first = interpreter.executeWord second ∧
      ∀ data, rest = "DW " ++ data →
        interpreter.executeWord first = (.ok .plain, interpreter) ∧
        (interpreter.machine.currentWord = first →
          interpreter.step =
            (.ok .plain, { interpreter with machine := interpreter.machine.advance })) := by
  have htext := eq_assembly_of_wordLine hfirst
  have hsame : first.assembly = second.assembly := by
    have hboth : first.assembly ++ "\n" = second.assembly ++ "\n" := by
      rw [← htext, eq_assembly_of_wordLine hsecond]
    exact (String.append_left_inj _).mp hboth
  constructor
  · apply executeWord_of_decode_eq
    rw [← Assembly.read?_assembly, ← Assembly.read?_assembly, hsame]
  · intro data hdata
    have hnone : first.decode = none :=
      Assembly.decode_eq_none_of_data (htext.symm.trans hdata)
    refine ⟨executeWord_of_decode_eq_none _ hnone, ?_⟩
    rintro rfl
    rw [step_eq_executeWord, executeWord_of_decode_eq_none _ hnone]

/-- Two words that are listed alike, and a word that is listed as data. -/
theorem executeWord_eq_of_listed_shift :
    let interpreter : Interpreter CountingSource :=
      ((new ⟨0, 1⟩ none).perform (.load [0x01, 0x23])).2
    (⟨0x8126⟩ : Word) ≠ ⟨0x81F6⟩ ∧
      Listing.wordLine 0x200 ⟨0x8126⟩ = Listing.columns 0x200 ⟨0x8126⟩ ++ "SHR  V1\n" ∧
      Listing.wordLine 0x2FE ⟨0x81F6⟩ = Listing.columns 0x2FE ⟨0x81F6⟩ ++ "SHR  V1\n" ∧
      interpreter.executeWord ⟨0x8126⟩ = interpreter.executeWord ⟨0x81F6⟩ ∧
      Listing.wordLine 0x200 ⟨0x0123⟩ = Listing.columns 0x200 ⟨0x0123⟩ ++ "DW 0x0123\n" ∧
      interpreter.step =
        (.ok .plain, { interpreter with machine := interpreter.machine.advance }) := by
  intro interpreter
  have hfirst : Listing.wordLine 0x200 ⟨0x8126⟩ =
      Listing.columns 0x200 ⟨0x8126⟩ ++ "SHR  V1\n" := by decide +kernel
  have hsecond : Listing.wordLine 0x2FE ⟨0x81F6⟩ =
      Listing.columns 0x2FE ⟨0x81F6⟩ ++ "SHR  V1\n" := by decide +kernel
  have hdata : Listing.wordLine 0x200 ⟨0x0123⟩ =
      Listing.columns 0x200 ⟨0x0123⟩ ++ "DW 0x0123\n" := by decide +kernel
  have hword : interpreter.machine.currentWord = ⟨0x0123⟩ := by decide +kernel
  obtain ⟨hsame, -⟩ := executeWord_eq_of_listed hfirst hsecond interpreter
  obtain ⟨-, hskipped⟩ := executeWord_eq_of_listed hdata hdata interpreter
  obtain ⟨-, hstep⟩ := hskipped "0x0123\n" (by decide +kernel)
  exact ⟨by decide, hfirst, hsecond, hsame, hdata, hstep hword⟩

end Interpreter
end ChipEight
