import Mathlib
import ChipEight.Proofs.Assembly

/-!
# Reading a listing back

A listing is read line by line.  Of each line only two things are looked at: the
address in front of the colon, and the hexadecimal digits between the blank behind
the colon and the next blank.  The digits of all lines together are the bytes of the
program (`writeTo_records`), whatever its length: a byte left over has a line of its
own, and addresses may grow wider than four digits.

What stands behind the second column has no say in this, as long as it contains no
line feed (`newline_not_mem_assembly`).
-/

namespace ChipEight

open Register

namespace Listing

/-! ## The reader -/

/-- The lines of a text in which every line ends with a line feed, without their
line feeds. -/
def lines (text : List Char) : List (List Char) :=
  (text.splitOn '\n').dropLast

/-- The second column of a line, which holds the bytes. -/
def byteColumn (line : List Char) : List Char :=
  ((line.dropWhile (· ≠ ':')).drop 2).takeWhile (· ≠ ' ')

/-- The bytes that are written with two hexadecimal digits each. -/
def bytes? : List Char → Option (List UInt8)
  | [] => some []
  | [_] => none
  | first :: second :: rest =>
    match Numeral.read? 16 [first, second], bytes? rest with
    | some byte, some others => some (UInt8.ofNat byte :: others)
    | _, _ => none

theorem lines_cons {line : List Char} (hline : '\n' ∉ line) (rest : List Char) :
    lines (line ++ '\n' :: rest) = line :: lines rest := by
  rw [lines, List.splitOn_append_cons_self_of_not_mem hline,
    List.dropLast_cons_of_ne_nil (List.splitOn_ne_nil _ _)]
  rfl

theorem lines_flatMap {written : List (List Char)} (hwritten : ∀ line ∈ written, '\n' ∉ line) :
    lines (written.flatMap (· ++ ['\n'])) = written := by
  induction written with
  | nil => rfl
  | cons line rest ih =>
      obtain ⟨hline, hrest⟩ := List.forall_mem_cons.mp hwritten
      rw [List.flatMap_cons, List.append_assoc, List.singleton_append, lines_cons hline, ih hrest]

theorem bytes?_append_byte (byte : UInt8) (rest : List Char) :
    bytes? (Numeral.hexDigits 2 byte.toNat ++ rest) = (bytes? rest).map (byte :: ·) := by
  have hread := Numeral.read?_hexDigits 2 byte.toNat
  rw [Numeral.hexDigits_two byte.toNat_lt] at hread ⊢
  rw [List.cons_append, List.singleton_append, bytes?, hread]
  cases bytes? rest with
  | none => rfl
  | some others => simp

/-! ## No line feed inside a line -/

/-- The names in the table are written on one line. -/
theorem newline_not_mem_names : ∀ form ∈ Form.table, '\n' ∉ form.mnemonic.toList ∧
    ∀ name ∈ Assembly.layoutNames form.layout, '\n' ∉ name.toList := by
  decide +kernel

theorem newline_not_mem_hexDigits (width number : Nat) :
    '\n' ∉ Numeral.hexDigits width number :=
  Numeral.not_mem_hexDigits (by decide) width number

theorem newline_not_mem_height (height : Fin 16) :
    '\n' ∉ (Numeral.decimal height.val).toList := by
  revert height
  decide +kernel

/-- The operands of a word are on one line if the names among them are. -/
theorem newline_not_mem_operands (word : Word) (layout : Layout)
    (hnames : ∀ name ∈ Assembly.layoutNames layout, '\n' ∉ name.toList) :
    '\n' ∉ (String.join (layout.pieces word)).toList := by
  have hhex (width number : Nat) : '\n' ∉ (Numeral.hex width number).toList := by
    simpa [Numeral.hex] using newline_not_mem_hexDigits width number
  have hheight := newline_not_mem_height word.n
  cases layout with
  | registerFrom source =>
      have hsource := hnames source List.mem_cons_self
      simp [Layout.pieces, hhex, hsource]
  | intoRegister target =>
      have htarget := hnames target List.mem_cons_self
      simp [Layout.pieces, hhex, htarget]
  | _ => simp [Layout.pieces, hhex, hheight]

theorem newline_not_mem_assembly (word : Word) : '\n' ∉ word.assembly.toList := by
  rw [Word.assembly]
  cases hform : word.form? with
  | none =>
      have hdigits := newline_not_mem_hexDigits 4 word.value.toNat
      simpa [Word.text, Numeral.hex] using hdigits
  | some form =>
      obtain ⟨hmnemonic, hnames⟩ := newline_not_mem_names form (List.mem_of_find?_eq_some hform)
      have hoperands := newline_not_mem_operands word form.layout hnames
      obtain ⟨blanks, htext⟩ := Assembly.exists_blanks form word
      dsimp only
      rw [htext]
      simpa [hmnemonic] using hoperands

/-! ## Lines -/

/-- A line of a listing: its address, the digits of its bytes, and what follows. -/
def lineOf (address : Nat) (bytes : List UInt8) (rest : List Char) : List Char :=
  Numeral.hexDigits 4 address ++
    ':' :: ' ' :: (bytes.flatMap (Numeral.hexDigits 2 ·.toNat) ++ ' ' :: rest)

section Line

variable (address : Nat) (bytes : List UInt8) (rest : List Char)

theorem not_mem_digits {c : Char} (hdigit : Numeral.digitIn? 16 c = none) :
    c ∉ bytes.flatMap (Numeral.hexDigits 2 ·.toNat) := by
  intro hmem
  obtain ⟨byte, -, hbyte⟩ := List.mem_flatMap.mp hmem
  exact Numeral.not_mem_hexDigits hdigit _ _ hbyte

theorem newline_not_mem_lineOf (hrest : '\n' ∉ rest) : '\n' ∉ lineOf address bytes rest := by
  have haddress := newline_not_mem_hexDigits 4 address
  have hdigits := not_mem_digits bytes (c := '\n') (by decide)
  rw [lineOf, List.mem_append]
  rintro (hmem | hmem)
  · exact haddress hmem
  · simp only [List.mem_cons, List.mem_append] at hmem
    rcases hmem with hcolon | hblank | hbytes | hblank | hlast
    · exact absurd hcolon (by decide)
    · exact absurd hblank (by decide)
    · exact hdigits hbytes
    · exact absurd hblank (by decide)
    · exact hrest hlast

theorem byteColumn_lineOf :
    byteColumn (lineOf address bytes rest) = bytes.flatMap (Numeral.hexDigits 2 ·.toNat) := by
  have hcolon : ∀ c ∈ Numeral.hexDigits 4 address, decide (c ≠ ':') = true := by
    intro c hc
    refine decide_eq_true fun hsame => ?_
    exact Numeral.not_mem_hexDigits (by decide) 4 address (hsame ▸ hc)
  have hblank : ∀ c ∈ bytes.flatMap (Numeral.hexDigits 2 ·.toNat), decide (c ≠ ' ') = true :=
    Assembly.nonblank_of_not_mem (not_mem_digits bytes (by decide))
  rw [byteColumn, lineOf, List.dropWhile_append_of_pos hcolon, List.dropWhile_cons]
  simp only [ne_eq, not_true_eq_false, decide_false, Bool.false_eq_true, if_false,
    List.drop_succ_cons, List.drop_zero]
  rw [List.takeWhile_append_of_pos hblank]
  simp

end Line

theorem bytes?_flatMap (bytes : List UInt8) :
    bytes? (bytes.flatMap (Numeral.hexDigits 2 ·.toNat)) = some bytes := by
  induction bytes with
  | nil => rfl
  | cons byte rest ih => rw [List.flatMap_cons, bytes?_append_byte, ih, Option.map_some]

/-- The lines that list a program whose first byte is at an address. -/
inductive Lists : Nat → List UInt8 → List (List Char) → Prop where
  | nil (address : Nat) : Lists address [] []
  /-- A byte is left over. -/
  | byte (address : Nat) (byte : UInt8) {rest : List Char} (hrest : '\n' ∉ rest) :
    Lists address [byte] [lineOf address [byte] rest]
  | word {address : Nat} (high low : UInt8) {program : List UInt8} {rest : List Char}
      {written : List (List Char)} (hrest : '\n' ∉ rest)
      (hlists : Lists (address + 2) program written) :
    Lists address (high :: low :: program) (lineOf address [high, low] rest :: written)

namespace Lists

variable {address : Nat} {program : List UInt8} {written : List (List Char)}

theorem newline_not_mem (hlists : Lists address program written) :
    ∀ line ∈ written, '\n' ∉ line := by
  induction hlists with
  | nil address => simp
  | byte address byte hrest =>
      simpa using newline_not_mem_lineOf address [byte] _ hrest
  | word high low hrest _ ih =>
      exact List.forall_mem_cons.mpr ⟨newline_not_mem_lineOf _ [high, low] _ hrest, ih⟩

theorem length_eq (hlists : Lists address program written) :
    written.length = (program.length + 1) / 2 := by
  induction hlists with
  | nil address => rfl
  | byte address byte hrest => simp
  | word high low hrest _ ih =>
      rw [List.length_cons, ih, List.length_cons, List.length_cons]
      omega

/-- Line `i` is about the bytes from place `2 * i` on. -/
theorem getElem?_eq (hlists : Lists address program written) {i : Nat} {line : List Char}
    (hline : written[i]? = some line) : ∃ bytes rest,
      line = lineOf (address + 2 * i) bytes rest ∧
      bytes.length = if 2 * i + 1 < program.length then 2 else 1 := by
  induction hlists generalizing i with
  | nil address => simp at hline
  | byte address byte hrest =>
      have hi : i = 0 := by
        have hbound := (List.getElem?_eq_some_iff.mp hline).1
        simpa using hbound
      subst hi
      exact ⟨[byte], _, (Option.some.inj hline).symm, rfl⟩
  | word high low hrest _ ih =>
      cases i with
      | zero => exact ⟨[high, low], _, (Option.some.inj hline).symm, by simp⟩
      | succ i =>
          obtain ⟨bytes, rest, hbytes, hlength⟩ := ih hline
          refine ⟨bytes, rest, ?_, ?_⟩
          · rw [hbytes]
            congr 1
            omega
          · rw [hlength, List.length_cons, List.length_cons]
            congr 1
            simp only [eq_iff_iff]
            omega

theorem flatMap_byteColumn (hlists : Lists address program written) :
    written.flatMap byteColumn = program.flatMap (Numeral.hexDigits 2 ·.toNat) := by
  induction hlists with
  | nil address => rfl
  | byte address byte hrest =>
      rw [List.flatMap_singleton, byteColumn_lineOf]
  | word high low hrest _ ih =>
      rw [List.flatMap_cons, byteColumn_lineOf, ih]
      simp

end Lists

theorem join_bytePieces (address : Nat) (byte : UInt8) : ∃ rest, '\n' ∉ rest ∧
    (String.join (bytePieces address byte)).toList = lineOf address [byte] rest ++ ['\n'] := by
  refine ⟨"  DB 0x".toList ++ Numeral.hexDigits 2 byte.toNat, ?_, ?_⟩
  · simpa using newline_not_mem_hexDigits 2 byte.toNat
  · simp [bytePieces, lineOf, Numeral.hex]

theorem join_wordPieces (address : Nat) (high low : UInt8) : ∃ rest, '\n' ∉ rest ∧
    (String.join (wordPieces address (Word.ofBytes high low))).toList =
      lineOf address [high, low] rest ++ ['\n'] := by
  refine ⟨(Word.ofBytes high low).assembly.toList, newline_not_mem_assembly _, ?_⟩
  have hvalue : (Word.ofBytes high low).value.toNat = 256 * high.toNat + low.toNat := by
    have hhigh := high.toNat_lt
    have hlow := low.toNat_lt
    rw [Word.ofBytes, UInt16.toNat_ofNat']
    omega
  have hline := wordLine_eq address (Word.ofBytes high low)
  rw [wordLine] at hline
  rw [hline]
  simp [columns, lineOf, Word.text, Numeral.hex, hvalue,
    Numeral.hexDigits_four _ low.toNat_lt]

/-- The text of a listing consists of lines that list the program. -/
theorem exists_lists (address : Nat) (program : List UInt8) : ∃ written,
    Lists address program written ∧
    (String.join (linePieces address program).flatten).toList =
      written.flatMap (· ++ ['\n']) := by
  fun_induction linePieces address program with
  | case1 address => exact ⟨[], .nil address, rfl⟩
  | case2 address byte =>
      obtain ⟨rest, hrest, hline⟩ := join_bytePieces address byte
      refine ⟨_, .byte address byte hrest, ?_⟩
      rw [List.flatten_singleton, hline, List.flatMap_singleton]
  | case3 address high low program ih =>
      obtain ⟨rest, hrest, hline⟩ := join_wordPieces address high low
      obtain ⟨written, hlists, htext⟩ := ih
      refine ⟨_, .word high low hrest hlists, ?_⟩
      rw [List.flatten_cons, String.join_append, String.toList_append, hline, htext,
        List.flatMap_cons]

/-! ## Whole listings -/

/-- What is promised about the listing of a program. -/
structure Records (listing : String) (program : List UInt8) : Prop where
  /-- Every line ends with a line feed. -/
  terminated : listing.toList = (lines listing.toList).flatMap (· ++ ['\n'])
  /-- There is a line for every two bytes, and for a byte left over. -/
  count : (lines listing.toList).length = (program.length + 1) / 2
  /-- Line `i` begins with its address and a colon. -/
  addressed : ∀ i line, (lines listing.toList)[i]? = some line → ∃ address rest,
    line = address ++ ':' :: rest ∧ Numeral.IsHex 4 (programStart + 2 * i) address
  /-- The second column has two digits for every byte of the line. -/
  wide : ∀ i line, (lines listing.toList)[i]? = some line →
    (byteColumn line).length = if 2 * i + 1 < program.length then 4 else 2
  /-- The digits of all lines are the bytes of the program. -/
  bytes : bytes? ((lines listing.toList).flatMap byteColumn) = some program

theorem text_records (program : List UInt8) : Records (text program) program := by
  obtain ⟨written, hlists, htext⟩ := exists_lists programStart program
  have hlisting : (text program).toList = written.flatMap (· ++ ['\n']) := htext
  have hlines : lines (text program).toList = written := by
    rw [hlisting, lines_flatMap hlists.newline_not_mem]
  constructor
  · rw [hlines, hlisting]
  · rw [hlines, hlists.length_eq]
  · intro i line hline
    rw [hlines] at hline
    obtain ⟨bytes, rest, rfl, -⟩ := hlists.getElem?_eq hline
    exact ⟨_, _, rfl, Numeral.isHex_hexDigits (by decide) _⟩
  · intro i line hline
    rw [hlines] at hline
    obtain ⟨bytes, rest, rfl, hlength⟩ := hlists.getElem?_eq hline
    have htwo (byte : UInt8) : (Numeral.hexDigits 2 byte.toNat).length = 2 := by
      rw [Numeral.hexDigits_two byte.toNat_lt]
      rfl
    rw [byteColumn_lineOf, List.length_flatMap]
    simp only [htwo, List.map_const', List.sum_replicate, hlength, smul_eq_mul]
    split <;> rfl
  · rw [hlines, hlists.flatMap_byteColumn, bytes?_flatMap]

/-- A listing is written in full into a text, it records the program, and no other
program has the same listing. -/
theorem writeTo_records (program : List UInt8) :
    writeTo "" program = (.ok (), text program) ∧ Records (text program) program ∧
      ∀ other, text other = text program → other = program := by
  have hwritten : writeTo "" program = (.ok (), text program) := by
    rw [writeTo, writeAll_text, String.empty_append]
    rfl
  refine ⟨hwritten, text_records program, fun other hsame => ?_⟩
  have hother := (text_records other).bytes
  rw [hsame, (text_records program).bytes] at hother
  exact (Option.some.inj hother).symm

/-- A word without a meaning, and a byte left over. -/
example : text [0xFF, 0xFF, 0x80] = "0200: FFFF DW 0xFFFF\n0202: 80   DB 0x80\n" := by
  decide +kernel

end Listing
end ChipEight
