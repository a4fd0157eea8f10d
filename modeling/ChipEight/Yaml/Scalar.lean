import ChipEight.Text.Decimal
import ChipEight.Yaml.Node

/-!
# What a text stands for

A plain text without a tag may stand for nothing at all, a truth value, a whole
number or a fraction; otherwise it stands for itself.  Whole numbers have an
optional sign and may be written in base sixteen, eight or two.  Digits behind
a leading zero are no number.  Whole numbers of more than 64 bits are numbers
up to 128 bits, but too wide for every use; beyond that they are fractions.

A tag asks for one kind of value.  A quoted text stands for itself.
-/

namespace ChipEight
namespace Yaml

/-- What something in a document is. -/
inductive Found where
  | nothing
  | truth (value : Bool)
  /-- A whole number of at most 64 bits. -/
  | integer (value : Int)
  /-- A whole number of more than 64 bits. -/
  | wide (value : Int)
  /-- A fraction, in text. -/
  | fraction (text : String)
  | text (text : String)
  | sequence
  | mapping
deriving DecidableEq

/-! ## Whole numbers -/

/-- The bases with a mark of their own. -/
def markedBases : List (List Char × Nat) :=
  [(['0', 'x'], 16), (['0', 'o'], 8), (['0', 'b'], 2)]

/-- The number behind the mark of a base. -/
def markedNumber? (text : List Char) : Option Nat :=
  markedBases.findSome? fun (mark, base) =>
    if mark.isPrefixOf text then Numeral.read? base (text.drop 2) else none

/-- Digits behind a leading zero, which are no number. -/
def isZeroPadded (text : List Char) : Bool :=
  let text := match text with
    | '-' :: rest => rest
    | '+' :: rest => rest
    | text => text
  1 < text.length && text.head? == some '0' && text.all Char.isDigit

/-- The number that digits write, in one of the bases. -/
def magnitude? (text : List Char) : Option Nat :=
  match markedNumber? text with
  | some number => some number
  | none => if isZeroPadded text then none else Numeral.read? 10 text

/-- The whole number without a minus sign that a text writes. -/
def natural? : List Char → Option Nat
  | '+' :: text => magnitude? text
  | text => magnitude? text

/-- The whole number with a minus sign that a text writes. -/
def negative? : List Char → Option Int
  | '-' :: text => (magnitude? text).map fun number => -(number : Int)
  | _ => none

/-- The whole number that a text writes. -/
def integer? (text : List Char) : Option Int :=
  match natural? text with
  | some number => some number
  | none => negative? text

/-- What a whole number is found to be, if it has at most 128 bits. -/
def integerFound? (number : Int) : Option Found :=
  if -(1 <<< 63 : Nat) ≤ number && number < (1 <<< 64 : Nat) then some (.integer number)
  else if -(1 <<< 127 : Nat) ≤ number && number < (1 <<< 128 : Nat) then some (.wide number)
  else none

/-! ## Other values -/

/-- A text that stands for nothing. -/
def isNull (text : String) : Bool :=
  ["null", "Null", "NULL", "~"].contains text

/-- A text that stands for a truth value. -/
def truth? (text : String) : Option Bool :=
  if ["true", "True", "TRUE"].contains text then some true
  else if ["false", "False", "FALSE"].contains text then some false
  else none

/-- A text that stands for a fraction, which is written again in full. -/
def fraction? (text : List Char) : Option String :=
  let unsigned := match text with
    | '+' :: rest => rest
    | text => text
  if [".inf", ".Inf", ".INF"].contains (String.ofList unsigned) then some "inf"
  else if ["-.inf", "-.Inf", "-.INF"].contains (String.ofList text) then some "-inf"
  else if [".nan", ".NaN", ".NAN"].contains (String.ofList text) then some "NaN"
  else (Decimal.read? text).bind Decimal.Written.text?

/-- What a plain text stands for. -/
def plainFound (text : String) : Found :=
  if text.isEmpty || isNull text then .nothing
  else
    match truth? text with
    | some value => .truth value
    | none =>
      let chars := text.toList
      match (integer? chars).bind integerFound? with
      | some found => found
      | none =>
        match if isZeroPadded chars then none else fraction? chars with
        | some text => .fraction text
        | none => .text text

/-! ## Tags -/

/-- A text that its tag does not fit, and what the tag asks for. -/
structure TagMismatch where
  text : String
  /-- What the tag asks for. -/
  wanted : String
deriving DecidableEq

namespace Scalar

/-- What a text with a tag stands for. -/
def taggedFound (scalar : Scalar) (tag : Tag) : Except TagMismatch Found :=
  let text := scalar.text
  let demand := fun (found : Option Found) (wanted : String) =>
    match found with
    | some found => Except.ok found
    | none => Except.error ⟨text, wanted⟩
  if tag == Tag.standard "bool" then demand ((truth? text).map .truth) "a boolean"
  else if tag == Tag.standard "int" then
    demand ((integer? text.toList).bind integerFound?) "an integer"
  else if tag == Tag.standard "float" then demand ((fraction? text.toList).map .fraction) "a float"
  else if tag == Tag.standard "null" then
    demand (if isNull text then some .nothing else none) "null"
  else if tag.isLocal && scalar.style == .plain then .ok (plainFound text)
  else .ok (.text text)

/-- What a text stands for. -/
def found (scalar : Scalar) : Except TagMismatch Found :=
  match scalar.tag with
  | some tag => scalar.taggedFound tag
  | none => .ok (if scalar.style == .plain then plainFound scalar.text else .text scalar.text)

/-- Whether the text may write a value of the kind with the given tag: it is
plain, or it is a block with that tag. -/
def mayWrite (scalar : Scalar) (kind : String) : Bool :=
  scalar.style == .plain
    || (scalar.style == .literal && scalar.tag == some (Tag.standard kind))

/-- Whether nothing is written at all. -/
def isAbsent (scalar : Scalar) : Bool :=
  scalar.text.isEmpty && scalar.style == .plain

/-- Whether the text stands for nothing where a value is optional.  Under the
tag of nothing no other text will do. -/
def isNothing (scalar : Scalar) : Except TagMismatch Bool :=
  if scalar.style != .plain then .ok false
  else
    match scalar.tag with
    | none => .ok (scalar.text.isEmpty || isNull scalar.text)
    | some tag =>
      if tag != Tag.standard "null" then .ok false
      else if isNull scalar.text then .ok true
      else .error ⟨scalar.text, "null"⟩

end Scalar
end Yaml
end ChipEight
