import ChipEight.Text.Numeral

/-!
# Decimal fractions

A decimal fraction is read as an exact number, then taken to the nearest number
with a binary mantissa of 53 bits, and written again with the fewest digits
that lead back to it.  All arithmetic is on whole numbers.

The nearest binary number to a value is the one whose distance is least; of two
the one with the even mantissa.  A value beyond the greatest binary number by
half a step or more has none.
-/

namespace ChipEight
namespace Decimal

/-! ## Nearest binary numbers -/

/-- A number `mantissa * 2 ^ exponent` that is not negative, with a mantissa
below `2 ^ 53`. -/
structure Binary where
  /-- The mantissa. -/
  mantissa : Nat
  /-- The power of two. -/
  exponent : Int
deriving DecidableEq

/-- The least power of two of a binary number. -/
def leastExponent : Int := -1074

/-- The greatest power of two of a binary number. -/
def greatestExponent : Int := 971

/-- A quotient rounded to the nearest whole number, a half to the even
neighbour. -/
def roundedQuotient (num den : Nat) : Nat :=
  let whole := num / den
  let twice := 2 * (num % den)
  if twice < den then whole
  else if den < twice then whole + 1
  else whole + whole % 2

/-- A power with an exponent that may be negative, as a fraction. -/
def powerFraction (base : Nat) (exponent : Int) : Nat × Nat :=
  if exponent < 0 then (1, base.pow exponent.natAbs) else (base.pow exponent.natAbs, 1)

/-- The exponent of the highest power of two in a fraction that is not zero. -/
def highestPower (num den : Nat) : Int :=
  let guess : Int := (num.log2 : Int) - (den.log2 : Int)
  let (p, q) := powerFraction 2 guess
  if num * q < p * den then guess - 1 else guess

/-- The nearest binary number to a fraction. -/
def nearest (num den : Nat) : Option Binary :=
  if num = 0 then some ⟨0, leastExponent⟩
  else
    let exponent := max (highestPower num den - 52) leastExponent
    let (p, q) := powerFraction 2 exponent
    let mantissa := roundedQuotient (num * q) (den * p)
    let (mantissa, exponent) :=
      if mantissa = 1 <<< 53 then (1 <<< 52, exponent + 1) else (mantissa, exponent)
    if greatestExponent < exponent then none else some ⟨mantissa, exponent⟩

/-! ## Shortest digits -/

/-- The fraction `digits * 10 ^ exponent`. -/
def decimalFraction (digits : Nat) (exponent : Int) : Nat × Nat :=
  let (p, q) := powerFraction 10 exponent
  (digits * p, q)

/-- The exponent of the highest power of ten in a fraction that is not zero,
looked for below and above a guess. -/
def highestTen (num den : Nat) : Nat → Int → Int
  | 0, guess => guess
  | fuel + 1, guess =>
    let (p, q) := powerFraction 10 guess
    if num * q < p * den then highestTen num den fuel (guess - 1)
    else if 10 * p * den ≤ num * q then highestTen num den fuel (guess + 1)
    else guess

/-- Whether a decimal leads back to the binary number. -/
def leadsBack (value : Binary) (digits : Nat) (exponent : Int) : Bool :=
  let (num, den) := decimalFraction digits exponent
  nearest num den == some value

/-- The distance of a decimal from a fraction, times a factor that depends on
the exponent and the fraction only. -/
def distance (num den : Nat) (digits : Nat) (exponent : Int) : Nat :=
  let (p, q) := decimalFraction digits exponent
  max (p * den) (num * q) - min (p * den) (num * q)

/-- The shortest decimal on grids from `exponent` downwards that leads back:
on each grid the two neighbours of the value are tried, the nearer first, and
of two that are equally near the greater one. -/
def shortestFrom (value : Binary) (num den : Nat) : Nat → Int → Nat × Int
  | 0, exponent =>
    let (p, q) := powerFraction 10 exponent
    (roundedQuotient (num * q) (den * p), exponent)
  | fuel + 1, exponent =>
    let (p, q) := powerFraction 10 exponent
    let low := num * q / (den * p)
    let lowFits := low != 0 && leadsBack value low exponent
    let highFits := leadsBack value (low + 1) exponent
    if lowFits && highFits then
      if distance num den (low + 1) exponent ≤ distance num den low exponent then
        (low + 1, exponent)
      else (low, exponent)
    else if lowFits then (low, exponent)
    else if highFits then (low + 1, exponent)
    else shortestFrom value num den fuel (exponent - 1)

/-- The decimal with the fewest digits that leads back to a binary number, and
of those the nearest. -/
def shortest (value : Binary) : Nat × Int :=
  if value.mantissa = 0 then (0, 0)
  else
    let (p, q) := powerFraction 2 value.exponent
    let num := value.mantissa * p
    let guess : Int := (num.log2 : Int) - (q.log2 : Int)
    shortestFrom value num q 18 (highestTen num q 700 (guess * 3 / 10))

/-! ## Text -/

/-- Write `digits * 10 ^ exponent` without an exponent, and with at least one
digit on each side of the point. -/
def positional (digits : Nat) (exponent : Int) : String :=
  let text := Nat.toDigits 10 digits
  if exponent < 0 then
    let places := exponent.natAbs
    let text := Numeral.padLeft '0' (places + 1) text
    let whole := text.length - places
    String.ofList (text.take whole) ++ "." ++ String.ofList (text.drop whole)
  else String.ofList (text ++ List.replicate exponent.natAbs '0') ++ ".0"

/-- A written fraction: whether it is negative, its digits as a whole number,
and the power of ten. -/
structure Written where
  /-- Whether there is a minus sign. -/
  negative : Bool
  /-- The digits without the point. -/
  digits : Nat
  /-- The power of ten they are multiplied with. -/
  exponent : Int
deriving DecidableEq

/-- Drop zeros at the end of digits, and count them. -/
def trimZeros : Nat → Nat → Int → Nat × Int
  | 0, digits, exponent => (digits, exponent)
  | fuel + 1, digits, exponent =>
    if digits != 0 && digits % 10 == 0 then trimZeros fuel (digits / 10) (exponent + 1)
    else (digits, exponent)

namespace Written

/-- The fraction as the nearest binary number, with the fewest digits; nothing
if it is too great. -/
def text? (written : Written) : Option String :=
  let sign := if written.negative then "-" else ""
  let count := (Nat.toDigits 10 written.digits).length
  if written.digits = 0 || written.exponent + count < -400 then some (sign ++ "0.0")
  else if 400 < written.exponent + count then none
  else
    let (num, den) := decimalFraction written.digits written.exponent
    (nearest num den).map fun value =>
      let (digits, exponent) := shortest value
      let (digits, exponent) := trimZeros 400 digits exponent
      sign ++ positional digits exponent

end Written

/-- Read the power of ten behind the letter `e`. -/
def readExponent? : List Char → Option Int
  | [] => some 0
  | c :: rest => if c == 'e' || c == 'E' then Numeral.readSigned? 10 rest else none

/-- Read digits with a point among them or at either end, and possibly a power
of ten; at least one digit is needed. -/
def readUnsigned? (negative : Bool) (text : List Char) : Option Written :=
  let whole := text.takeWhile Char.isDigit
  let rest := text.drop whole.length
  let (places, rest) := match rest with
    | '.' :: rest => (rest.takeWhile Char.isDigit, rest.dropWhile Char.isDigit)
    | rest => ([], rest)
  match Numeral.read? 10 (whole ++ places), readExponent? rest with
  | some digits, some exponent => some ⟨negative, digits, exponent - places.length⟩
  | _, _ => none

/-- Read a written fraction. -/
def read? : List Char → Option Written
  | '-' :: text => readUnsigned? true text
  | '+' :: text => readUnsigned? false text
  | text => readUnsigned? false text

end Decimal
end ChipEight
