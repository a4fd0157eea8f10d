import Mathlib
import ChipEight.Text.Numeral

/-!
# Reading what was written

Digits are read from the left, each multiplying what came before by the base, so
the digits of a number are read back as the number (`readOn?_toDigits`).  In base
sixteen this holds for every width to which the digits are filled up with zeros,
also when the number is wider (`read?_hexDigits`).

`IsHex` says what a number in base sixteen looks like without naming the function
that writes it.
-/

namespace ChipEight
namespace Numeral

variable {base : Nat}

theorem readOn?_append {sofar middle : Nat} {first : List Char}
    (hfirst : readOn? base sofar first = some middle) (second : List Char) :
    readOn? base sofar (first ++ second) = readOn? base middle second := by
  induction first generalizing sofar with
  | nil =>
      cases hfirst
      rfl
  | cons c rest ih =>
      rw [readOn?] at hfirst
      rw [List.cons_append, readOn?]
      cases hdigit : digitIn? base c with
      | none =>
          rw [hdigit] at hfirst
          cases hfirst
      | some d =>
          rw [hdigit] at hfirst
          exact ih hfirst

theorem readOn?_append_digit {sofar middle d : Nat} {text : List Char} {c : Char}
    (htext : readOn? base sofar text = some middle) (hdigit : digitIn? base c = some d) :
    readOn? base sofar (text ++ [c]) = some (middle * base + d) := by
  rw [readOn?_append htext, readOn?, hdigit]
  rfl

/-- What can be read consists of digits. -/
theorem digitIn?_of_mem {sofar number : Nat} {text : List Char}
    (hread : readOn? base sofar text = some number) {c : Char} (hmem : c ∈ text) :
    ∃ d, digitIn? base c = some d := by
  induction text generalizing sofar with
  | nil => cases hmem
  | cons first rest ih =>
      rw [readOn?] at hread
      cases hdigit : digitIn? base first with
      | none =>
          rw [hdigit] at hread
          cases hread
      | some d =>
          rw [hdigit] at hread
          rcases List.mem_cons.mp hmem with rfl | hrest
          · exact ⟨d, hdigit⟩
          · exact ih hread hrest

/-- The digits of a number, in whichever way they are spelt, are read back. -/
theorem readOn?_toDigits (hbase : 1 < base) {spell : Char → Char}
    (hspell : ∀ d < base, digitIn? base (spell (Nat.digitChar d)) = some d) (number : Nat) :
    readOn? base 0 ((Nat.toDigits base number).map spell) = some number := by
  induction number using Nat.strong_induction_on with
  | _ number ih =>
      by_cases hsmall : number < base
      · rw [Nat.toDigits_of_lt_base hsmall, List.map_singleton, readOn?, hspell _ hsmall]
        simp [readOn?]
      -- The last digit is what is left by the division that gives the others.
      · have hpos : 0 < number / base := Nat.div_pos (Nat.le_of_not_lt hsmall) (by omega)
        have hless : number / base < number := Nat.div_lt_self (by omega) hbase
        have hlast : number % base < base := Nat.mod_lt _ (by omega)
        have hdigits : Nat.toDigits base number =
            Nat.toDigits base (number / base) ++ [Nat.digitChar (number % base)] := by
          rw [← Nat.toDigits_of_lt_base hlast, Nat.toDigits_append_toDigits hbase hpos hlast,
            Nat.div_add_mod]
        rw [hdigits, List.map_append, List.map_singleton,
          readOn?_append_digit (ih _ hless) (hspell _ hlast), Nat.mul_comm, Nat.div_add_mod]

theorem readOn?_zeros (hbase : 0 < base) (count : Nat) :
    readOn? base 0 (List.replicate count '0') = some 0 := by
  have hvalue : digitValue? '0' = some 0 := by decide
  have hzero : digitIn? base '0' = some 0 := by
    rw [digitIn?, hvalue, Option.filter_some, if_pos (decide_eq_true hbase)]
  induction count with
  | zero => rfl
  | succ count ih =>
      rw [List.replicate_succ, readOn?, hzero, Nat.zero_mul]
      exact ih

theorem read?_of_ne_nil {text : List Char} (htext : text ≠ []) :
    read? base text = readOn? base 0 text := by
  cases text with
  | nil => contradiction
  | cons c rest => rfl

/-- What is no digit does not occur in a text that can be read. -/
theorem not_mem_of_read? {c : Char} {text : List Char} {number : Nat}
    (hdigit : digitIn? base c = none) (hread : read? base text = some number) : c ∉ text := by
  intro hmem
  rw [read?_of_ne_nil (List.ne_nil_of_mem hmem)] at hread
  obtain ⟨d, hd⟩ := digitIn?_of_mem hread hmem
  rw [hdigit] at hd
  cases hd

/-! ## Base sixteen -/

theorem hexDigits_ne_nil (width number : Nat) : hexDigits width number ≠ [] := by
  have hdigits : Nat.toDigits 16 number ≠ [] := Nat.toDigits_ne_nil
  simp [hexDigits, padLeft, hdigits]

/-- A number in base sixteen is read back, whatever its width. -/
theorem read?_hexDigits (width number : Nat) : read? 16 (hexDigits width number) = some number := by
  have hspell : ∀ d < 16, digitIn? 16 (Char.toUpper (Nat.digitChar d)) = some d := by decide
  rw [read?_of_ne_nil (hexDigits_ne_nil width number), hexDigits, padLeft,
    readOn?_append (readOn?_zeros (by decide) _)]
  exact readOn?_toDigits (by decide) hspell number

/-- What is no digit does not occur in a written number. -/
theorem not_mem_hexDigits {c : Char} (hdigit : digitIn? 16 c = none) (width number : Nat) :
    c ∉ hexDigits width number :=
  not_mem_of_read? hdigit (read?_hexDigits width number)

/-- The last digit of a number is the remainder of its division by sixteen, also
among the zeros in front of a small number. -/
theorem hexDigits_succ {width : Nat} (hwidth : 0 < width) (number : Nat) :
    hexDigits (width + 1) number =
      hexDigits width (number / 16) ++ [(Nat.digitChar (number % 16)).toUpper] := by
  rw [hexDigits, hexDigits, Nat.toDigits_eq_if (by decide)]
  by_cases hsmall : number < 16
  · have hzeros : List.replicate width '0' = List.replicate (width - 1) '0' ++ ['0'] := by
      rw [← List.replicate_succ', Nat.sub_add_cancel hwidth]
    have hzero : Char.toUpper '0' = '0' := by decide
    rw [if_pos hsmall, Nat.div_eq_of_lt hsmall, Nat.mod_eq_of_lt hsmall]
    simp [padLeft, Nat.toDigits_zero, hzero, hzeros]
  · rw [if_neg hsmall]
    simp [padLeft]

theorem hexDigits_one {number : Nat} (hsmall : number < 16) :
    hexDigits 1 number = [(Nat.digitChar number).toUpper] := by
  rw [hexDigits, Nat.toDigits_of_lt_base hsmall]
  rfl

theorem hexDigits_two {number : Nat} (hsmall : number < 256) :
    hexDigits 2 number =
      [(Nat.digitChar (number / 16)).toUpper, (Nat.digitChar (number % 16)).toUpper] := by
  rw [hexDigits_succ (by decide), hexDigits_one (by omega)]
  rfl

/-- The digits of a word are those of its two bytes. -/
theorem hexDigits_four (high : Nat) {low : Nat} (hlow : low < 256) :
    hexDigits 4 (256 * high + low) = hexDigits 2 high ++ hexDigits 2 low := by
  have hbyte : (256 * high + low) / 16 / 16 = high := by omega
  have hmiddle : (256 * high + low) / 16 % 16 = low / 16 := by omega
  have hlast : (256 * high + low) % 16 = low % 16 := by omega
  rw [hexDigits_succ (by decide), hexDigits_succ (by decide), hbyte, hmiddle, hlast,
    hexDigits_two hlow, List.append_assoc]
  rfl

/-- A number in base sixteen with capital letters and a least number of digits; no
more digits than these stand in front than the number needs. -/
structure IsHex (width number : Nat) (text : List Char) : Prop where
  read : read? 16 text = some number
  capitals : ∀ c ∈ text, c ∈ "0123456789ABCDEF".toList
  wide : width ≤ text.length
  short : width < text.length → 16 ^ (text.length - 1) ≤ number

theorem exists_digit_of_mem_toDigits {base number : Nat} (hbase : 1 < base) {c : Char}
    (hmem : c ∈ Nat.toDigits base number) : ∃ d < base, c = Nat.digitChar d := by
  induction number using Nat.strong_induction_on with
  | _ number ih =>
      rw [Nat.toDigits_eq_if hbase] at hmem
      by_cases hsmall : number < base
      · rw [if_pos hsmall, List.mem_singleton] at hmem
        exact ⟨number, hsmall, hmem⟩
      · rw [if_neg hsmall, List.mem_append, List.mem_singleton] at hmem
        rcases hmem with hearlier | hlast
        · exact ih _ (Nat.div_lt_self (by omega) hbase) hearlier
        · exact ⟨number % base, Nat.mod_lt _ (by omega), hlast⟩

theorem isHex_hexDigits {width : Nat} (hwidth : 0 < width) (number : Nat) :
    IsHex width number (hexDigits width number) where
  read := read?_hexDigits width number
  capitals := by
    intro c hmem
    have hcapital : ∀ d < 16,
        (Nat.digitChar d).toUpper ∈ "0123456789ABCDEF".toList := by decide
    rw [hexDigits, padLeft, List.mem_append, List.mem_map] at hmem
    rcases hmem with hzero | ⟨digit, hdigit, rfl⟩
    · rw [List.eq_of_mem_replicate hzero]
      decide
    · obtain ⟨d, hd, rfl⟩ := exists_digit_of_mem_toDigits (by decide) hdigit
      exact hcapital d hd
  wide := by
    rw [hexDigits, length_padLeft]
    exact Nat.le_max_left _ _
  short := by
    intro hlonger
    -- A number that is wider than asked for is not filled up at all.
    have hlength : (hexDigits width number).length = (Nat.toDigits 16 number).length := by
      rw [hexDigits, length_padLeft, List.length_map] at hlonger ⊢
      omega
    rw [hlength] at hlonger ⊢
    by_contra hless
    have hfits := (Nat.length_toDigits_le_iff (b := 16) (by decide) (by omega)).mpr
      (Nat.lt_of_not_le hless)
    omega

/-! ## Base ten -/

/-- A number in base ten is read back. -/
theorem read?_decimal (number : Nat) : read? 10 (decimal number).toList = some number := by
  have hspell : ∀ d < 10, digitIn? 10 (id (Nat.digitChar d)) = some d := by decide
  have hread := readOn?_toDigits (by decide) hspell number
  rw [List.map_id] at hread
  rw [decimal, String.toList_ofList, read?_of_ne_nil Nat.toDigits_ne_nil]
  exact hread

theorem not_mem_decimal {c : Char} (hdigit : digitIn? 10 c = none) (number : Nat) :
    c ∉ (decimal number).toList :=
  not_mem_of_read? hdigit (read?_decimal number)

/-- A number with its sign is written as whole numbers are. -/
theorem signedDecimal_eq_toString (number : Int) : signedDecimal number = toString number := by
  cases number with
  | ofNat number => rfl
  | negSucc number => exact if_pos (Int.negSucc_lt_zero number)

end Numeral
end ChipEight
