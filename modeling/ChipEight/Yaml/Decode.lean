import ChipEight.Text.Quoted
import ChipEight.Yaml.Scalar

/-!
# Reading data out of a document

Data is read by saying what is wanted at each place of a document.  If a place
holds something else, the error says where, what was found and what was wanted.
Places are reported as paths: keys are joined by points and positions in lists
stand in brackets.

A document is read in the order of its text, so of two errors the first is
reported; and the syntax of the text is at fault only if no error comes before
the place where it breaks.

A short text can write very much with references to references.  So they are
counted as they are followed, and there may be no more of them than a multiple
of the parts of the document.
-/

namespace ChipEight
namespace Yaml

/-! ## Paths -/

/-- A step from a node to a part of it. -/
inductive Segment where
  /-- The value of a key. -/
  | key (name : String)
  /-- An item of a list. -/
  | item (position : Nat)
  /-- The value of a key that is not a text. -/
  | unknown
deriving DecidableEq

/-- A place in a document; the empty path is the whole document. -/
abbrev Path := List Segment

namespace Path

/-- Continue the text of a path that is not empty. -/
def extend (text : String) : Segment → String
  | .key name => text ++ "." ++ name
  | .item position => text ++ "[" ++ Numeral.decimal position ++ "]"
  | .unknown => text ++ ".?"

/-- The text of the first segment of a path. -/
def first : Segment → String
  | .key name => name
  | .item position => ".[" ++ Numeral.decimal position ++ "]"
  | .unknown => "?"

/-- A path in text. -/
def text : Path → String
  | [] => ""
  | segment :: rest => rest.foldl extend (first segment)

end Path

/-! ## Errors -/

/-- What is wrong at a place of a document. -/
inductive DataFault where
  | wrongKind (found : Found) (wanted : String)
  /-- The place holds a value out of range, or a text that its tag does not
  fit. -/
  | wrongValue (found : Found) (wanted : String)
  | unknownKey (name : String) (known : List String)
  | missingKey (name : String)
  | repeatedKey (name : String)
deriving DecidableEq

/-- Why data could not be read out of a document. -/
inductive DecodeError where
  /-- The data is not what is wanted. -/
  | data (path : Path) (fault : DataFault)
  /-- The text is not a document. -/
  | broken (fault : SyntaxFault)
  | tooManyReferences
deriving DecidableEq

namespace Found

/-- A word in back quotes. -/
def ticked (word : String) : String :=
  "`" ++ word ++ "`"

/-- What was found, in words. -/
def message : Found → String
  | .nothing => "unit value"
  | .truth value => "boolean " ++ ticked (if value then "true" else "false")
  | .integer value => "integer " ++ ticked (Numeral.signedDecimal value)
  | .wide value =>
    "integer " ++ ticked (Numeral.signedDecimal value) ++
      (if value < 0 then " as i128" else " as u128")
  | .fraction digits => "floating point " ++ ticked digits
  | .text written => "string " ++ Quoted.quote written
  | .sequence => "sequence"
  | .mapping => "map"

end Found

namespace DataFault

/-- The keys that a mapping may have, in words. -/
def knownMessage : List String → String
  | [] => "there are no fields"
  | [a] => "expected " ++ Found.ticked a
  | [a, b] => "expected " ++ Found.ticked a ++ " or " ++ Found.ticked b
  | known => "expected one of " ++ ", ".intercalate (known.map Found.ticked)

/-- The fault in words. -/
def message : DataFault → String
  | wrongKind found wanted => "invalid type: " ++ found.message ++ ", expected " ++ wanted
  | wrongValue found wanted => "invalid value: " ++ found.message ++ ", expected " ++ wanted
  | unknownKey name known => "unknown field " ++ Found.ticked name ++ ", " ++ knownMessage known
  | missingKey name => "missing field " ++ Found.ticked name
  | repeatedKey name => "duplicate field " ++ Found.ticked name

end DataFault

namespace DecodeError

/-- The error in words, after the path of its place. -/
def message : DecodeError → String
  | data [] fault => fault.message
  | data path fault => path.text ++ ": " ++ fault.message
  | broken fault => fault.message
  | tooManyReferences => "repetition limit exceeded"

end DecodeError

/-- Reading data counts the references that are followed. -/
abbrev Reading := StateT Nat (Except DecodeError)

/-! ## Wanting something of a node -/

/-- A whole number as it is handed over: in a word of 64 bits, with a sign or without. -/
inductive WholeNumber where
  | signed (word : Int64)
  | unsigned (word : UInt64)
deriving DecidableEq

namespace WholeNumber

/-- The number that is handed over. -/
def toInt : WholeNumber → Int
  | signed word => word.toInt
  | unsigned word => word.toNat

end WholeNumber

/-- A node at a place of a document. -/
structure Place where
  document : Document
  path : Path
  node : Node

namespace Document

/-- How many references may be followed. -/
def referenceLimit (document : Document) : Nat :=
  100 * document.parts

end Document

namespace Place

/-- Another node of the same document. -/
def move (place : Place) (segment : Segment) (node : Node) : Place :=
  ⟨place.document, place.path ++ [segment], node⟩

/-- An error at the place. -/
def fail {α : Type} (place : Place) (fault : DataFault) : Reading α :=
  throw (.data place.path fault)

/-- The syntax breaks at the place. -/
def broken {α : Type} (place : Place) : Reading α :=
  throw (.broken (place.document.fault.getD .expectedNode))

/-- The error for a text that its tag does not fit. -/
def mismatch {α : Type} (place : Place) (mismatch : TagMismatch) : Reading α :=
  place.fail (.wrongValue (.text mismatch.text) mismatch.wanted)

/-- The error for a place that does not hold what is wanted. -/
def refuse {α : Type} (place : Place) (wanted : String) : Reading α :=
  match place.node with
  | .scalar scalar =>
    match scalar.found with
    | .ok found => place.fail (.wrongKind found wanted)
    | .error mismatch => place.mismatch mismatch
  | .sequence _ => place.fail (.wrongKind .sequence wanted)
  | .mapping _ => place.fail (.wrongKind .mapping wanted)
  | .alias _ | .cut => place.broken

/-- The place with the node that a reference stands for; other nodes stand for
themselves. -/
def follow (place : Place) : Reading Place := do
  match place.node with
  | .alias number =>
    let followed := (← get) + 1
    set followed
    if place.document.referenceLimit < followed then throw .tooManyReferences
    return { place with node := place.document.target number }
  | _ => return place

/-- The value that a text of the given kind writes. -/
def written {α : Type} (place : Place) (kind wanted : String) (read : String → Option α) :
    Reading α := do
  let place ← place.follow
  match place.node with
  | .scalar scalar =>
    match if scalar.mayWrite kind then read scalar.text else none with
    | some value => return value
    | none => place.refuse wanted
  | _ => place.refuse wanted

/-- A whole number of at most 64 bits that is not negative. -/
def natural (place : Place) (wanted : String) : Reading Nat :=
  place.written "int" wanted fun text =>
    (natural? text.toList).filter (· < 1 <<< 64)

/-- A whole number that fits into a word with a sign. -/
def integer (place : Place) (wanted : String) : Reading WholeNumber :=
  place.written "int" wanted fun text =>
    ((integer? text.toList).filter fun number : Int =>
      -(1 <<< 63 : Nat) ≤ number && number < (1 <<< 63 : Nat)).map fun number =>
        .signed (Int64.ofInt number)

/-- A truth value. -/
def truth (place : Place) : Reading Bool :=
  place.written "bool" "a boolean" truth?

/-- The place that a place is a part of, as far as reports go. -/
def owner (place : Place) : Place :=
  { place with path := place.path.dropLast }

/-- What is wanted, or nothing.  A text that should be nothing, by its tag, and
is not, is reported at the mapping. -/
def optional {α : Type} (place : Place) (want : Place → Reading α) : Reading (Option α) := do
  let place ← place.follow
  match place.node with
  | .scalar scalar =>
    match scalar.isNothing with
    | .ok true => return none
    | .ok false => return some (← want place)
    | .error mismatch => place.owner.mismatch mismatch
  | _ => return some (← want place)

/-- The items of a list, each as it is wanted, counted from `position`. -/
def itemsFrom {α : Type} (place : Place) (want : Place → Reading α) (position : Nat) :
    List Node → Reading (List α)
  | [] => return []
  | node :: rest => do
    let value ← want (place.move (.item position) node)
    let values ← place.itemsFrom want (position + 1) rest
    return value :: values

/-- A list, each item as it is wanted.  Nothing at all is the empty list. -/
def list {α : Type} (place : Place) (want : Place → Reading α) : Reading (List α) := do
  let place ← place.follow
  match place.node with
  | .sequence items => place.itemsFrom want 0 items
  | .scalar scalar => if scalar.isAbsent then return [] else place.refuse "a sequence"
  | _ => place.refuse "a sequence"

/-- The entries of a mapping.  Nothing at all is the empty mapping. -/
def entries (place : Place) (wanted : String) : Reading (List (Node × Node)) := do
  let place ← place.follow
  match place.node with
  | .mapping entries => return entries
  | .scalar scalar => if scalar.isAbsent then return [] else place.refuse wanted
  | _ => place.refuse wanted

/-- The name that a key of a mapping is.  Any text is taken as it is written. -/
def keyName (place : Place) (key : Node) : Reading String := do
  let keyPlace ← { place with node := key }.follow
  match keyPlace.node with
  | .scalar scalar => return scalar.text
  | _ => keyPlace.refuse "field identifier"

/-- The place of the value of a key. -/
def valuePlace (place : Place) (key value : Node) : Place :=
  match key with
  | .scalar scalar => place.move (.key scalar.text) value
  | _ => place.move .unknown value

/-- Take the entries of a mapping one after the other into a record. -/
def foldEntries {α : Type} (place : Place) (take : α → String → Place → Reading α) (record : α) :
    List (Node × Node) → Reading α
  | [] => return record
  | (key, value) :: rest => do
    let name ← place.keyName key
    let record ← take record name (place.valuePlace key value)
    place.foldEntries take record rest

end Place

namespace Document

/-- The whole document as a place; an empty text holds nothing. -/
def place (document : Document) : Place :=
  ⟨document, [], document.root.getD .absent⟩

/-- Read data out of a document.  Data errors come first; then the rest of the
text must be in order. -/
def decode {α : Type} (document : Document) (want : Place → Reading α) : Except DecodeError α :=
  match (want document.place).run 0 with
  | .error error => .error error
  | .ok (value, _) =>
    match document.fault with
    | some fault => .error (.broken fault)
    | none => .ok value

end Document
end Yaml
end ChipEight
