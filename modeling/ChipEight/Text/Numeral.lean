/-!
# Written numbers

Whole numbers are written in base ten without leading zeros, and in base
sixteen with a least number of digits, filled up with zeros on the left.  A
number wider than that least number is written in full.  Where it matters in
which pieces a text is written, what fills it up is written one character at a
time.  Reading accepts both cases of the letter digits and any number of leading
zeros, and refuses an empty text.
-/

namespace ChipEight
namespace Numeral

/-! ## Writing -/

/-- Fill a text up on the left to the given width. -/
def padLeft (fill : Char) (width : Nat) (text : List Char) : List Char :=
  List.replicate (width - text.length) fill ++ text

/-- Fill a text up with blanks on the right to the given width. -/
def padRight (width : Nat) (text : String) : String :=
  text ++ String.ofList (List.replicate (width - text.length) ' ')

theorem length_padLeft (fill : Char) (width : Nat) (text : List Char) :
    (padLeft fill width text).length = max width text.length := by
  simp [padLeft]
  omega

/-- The digits of `n` in base sixteen with capital letters, at least `width` of them. -/
def hexDigits (width n : Nat) : List Char :=
  padLeft '0' width ((Nat.toDigits 16 n).map Char.toUpper)

/-- `n` in base sixteen with capital letters and at least `width` digits. -/
def hex (width n : Nat) : String :=
  String.ofList (hexDigits width n)

/-- `n` in base sixteen with small letters and at least `width` digits. -/
def smallHex (width n : Nat) : String :=
  String.ofList (padLeft '0' width (Nat.toDigits 16 n))

/-- `n` in base ten. -/
def decimal (n : Nat) : String :=
  String.ofList (Nat.toDigits 10 n)

/-- `n` in base ten, with a minus sign in front when it is negative. -/
def signedDecimal (n : Int) : String :=
  if n < 0 then "-" ++ decimal n.natAbs else decimal n.natAbs

/-! ## Writing piece by piece -/

/-- A text with blanks on the right up to the given width, each blank a piece of
its own. -/
def padRightPieces (width : Nat) (text : String) : List String :=
  text :: List.replicate (width - text.length) " "

/-- `n` in base sixteen with capital letters: each zero in front is a piece of its
own, and the digits of the number are one piece. -/
def hexPieces (width n : Nat) : List String :=
  let digits := (Nat.toDigits 16 n).map Char.toUpper
  List.replicate (width - digits.length) "0" ++ [String.ofList digits]

theorem join_replicate (count : Nat) (c : Char) :
    String.join (List.replicate count (String.singleton c)) =
      String.ofList (List.replicate count c) := by
  induction count with
  | zero => rfl
  | succ count ih =>
    rw [List.replicate_succ, String.join_cons, ih, List.replicate_succ]
    simp

@[simp]
theorem join_padRightPieces (width : Nat) (text : String) :
    String.join (padRightPieces width text) = padRight width text := by
  rw [padRightPieces, String.join_cons]
  exact congrArg (text ++ ·) (join_replicate _ ' ')

@[simp]
theorem join_hexPieces (width n : Nat) : String.join (hexPieces width n) = hex width n := by
  have hzeros := join_replicate
    (width - ((Nat.toDigits 16 n).map Char.toUpper).length) '0'
  change String.join (List.replicate _ (String.singleton '0') ++ _) = _
  rw [String.join_append, hzeros]
  simp [hex, hexDigits, padLeft]

/-! ## Reading -/

/-- The value of a digit or letter digit, below thirty-six. -/
def digitValue? (c : Char) : Option Nat :=
  if '0' ≤ c ∧ c ≤ '9' then some (c.toNat - '0'.toNat)
  else if 'a' ≤ c ∧ c ≤ 'z' then some (c.toNat - 'a'.toNat + 10)
  else if 'A' ≤ c ∧ c ≤ 'Z' then some (c.toNat - 'A'.toNat + 10)
  else none

/-- The value of a digit in the given base. -/
def digitIn? (base : Nat) (c : Char) : Option Nat :=
  (digitValue? c).filter (· < base)

/-- Continue reading digits after those that have the value `sofar`. -/
def readOn? (base sofar : Nat) : List Char → Option Nat
  | [] => some sofar
  | c :: rest =>
    match digitIn? base c with
    | some d => readOn? base (sofar * base + d) rest
    | none => none

/-- Read a number written in the given base; every character must be a digit
of that base and there must be at least one. -/
def read? (base : Nat) : List Char → Option Nat
  | [] => none
  | text => readOn? base 0 text

/-- Read a number that may carry a plus or a minus sign in front. -/
def readSigned? (base : Nat) : List Char → Option Int
  | '-' :: text => (read? base text).map fun n => -(n : Int)
  | '+' :: text => (read? base text).map fun n => (n : Int)
  | text => (read? base text).map fun n => (n : Int)

end Numeral
end ChipEight
