import ChipEight.Yaml.Tag
import ChipEight.Yaml.Text

/-!
# Tokens of a document

A document is made of marks and texts.  Some marks are not written: a block
begins where the indentation grows and ends where it shrinks, and that a text
is a key is known only when its colon follows.

The readers in this module read a single token that begins at a known sign, and
answer it with the place behind it.
-/

namespace ChipEight
namespace Yaml

/-- A mark or a text of a document. -/
inductive Token where
  | documentStart
  | documentEnd
  /-- The version of the language that the document is written in. -/
  | version (major minor : Nat)
  /-- A tag handle and what it stands for. -/
  | handle (name : String) (expansion : Tag)
  /-- A list whose entries are marked by dashes begins. -/
  | blockSequenceStart
  /-- A mapping whose entries are on lines of their own begins. -/
  | blockMappingStart
  | blockEnd
  /-- An opening square bracket. -/
  | flowSequenceStart
  /-- A closing square bracket. -/
  | flowSequenceEnd
  /-- An opening brace. -/
  | flowMappingStart
  /-- A closing brace. -/
  | flowMappingEnd
  /-- The dash of an entry. -/
  | blockEntry
  /-- The comma between entries. -/
  | flowEntry
  | key
  | value
  /-- A reference to a named node. -/
  | alias (name : String)
  /-- A name for the next node. -/
  | anchor (name : String)
  /-- A tag for the next node: a handle and what follows it. -/
  | tag (handle : String) (rest : Tag)
  | scalar (text : String) (style : Style)
  | streamEnd
deriving DecidableEq

/-! ## Names and tags -/

/-- Read a name after `&` or `*`. -/
def readName (cursor : Cursor) : Except SyntaxFault (String × Cursor) :=
  let start := cursor.skip 1
  let name := start.rest.takeWhile isNameChar
  let behind := start.skipWhile isNameChar
  let ended := endsWord behind.rest
    || behind.rest.head?.any ['?', ':', ',', ']', '\x7d', '%', '@', '\x60'].contains
  if name.isEmpty || !ended then .error .badAnchor else .ok (String.ofList name, behind)

/-- The handle that a text begins with: two exclamation marks with a name or
nothing between them. -/
def handle? (text : List Char) : Option (List Char) :=
  let name := (text.drop 1).takeWhile isNameChar
  if text.head? == some '!' && (text.drop (1 + name.length)).head? == some '!' then
    some (['!'] ++ name ++ ['!'])
  else none

/-- Read a tag: in angle brackets, with a handle, or with a single exclamation
mark in front.  A mark with nothing behind it is the tag itself. -/
def readTag (cursor : Cursor) : Except SyntaxFault (Token × Cursor) :=
  if cursor.rest.take 2 == ['!', '<'] then do
    let (tag, behind) ← Tag.read true (cursor.skip 2)
    if behind.rest.head? == some '>' then .ok (.tag "" tag, behind.skip 1) else .error .badTag
  else
    match handle? cursor.rest with
    | some handle => do
      let (suffix, behind) ← Tag.read false (cursor.skip handle.length)
      .ok (.tag (String.ofList handle) suffix, behind)
    | none => do
      let (tag, behind) ← Tag.read false cursor
      let suffix := tag.drop 1
      .ok (if suffix.isEmpty then .tag "" tag else .tag "!" suffix, behind)

/-! ## Directives -/

/-- The greatest number of digits of a version number. -/
def versionDigits : Nat := 9

/-- Read a number of a version. -/
def readVersionNumber (cursor : Cursor) : Except SyntaxFault (Nat × Cursor) :=
  let digits := cursor.rest.takeWhile Char.isDigit
  match if versionDigits < digits.length then none else Numeral.read? 10 digits with
  | some number => .ok (number, cursor.skipWhile Char.isDigit)
  | none => .error .badDirective

/-- Read the declaration of a version. -/
def readVersion (cursor : Cursor) : Except SyntaxFault (Token × Cursor) := do
  let (major, behind) ← readVersionNumber cursor
  if behind.rest.head? != some '.' then .error .badDirective
  let (minor, behind) ← readVersionNumber (behind.skip 1)
  .ok (.version major minor, behind)

/-- Read the declaration of a tag handle, which may also be a single mark. -/
def readHandle (cursor : Cursor) : Except SyntaxFault (Token × Cursor) := do
  let handle := (handle? cursor.rest).getD ['!']
  let behind := cursor.skip handle.length
  if cursor.rest.head? != some '!' || !behind.rest.head?.any isBlank then .error .badDirective
  let (expansion, behind) ← Tag.read true (behind.skipWhile isBlank)
  if !endsWord behind.rest then .error .badDirective
  .ok (.handle (String.ofList handle) expansion, behind)

/-- Read a line that begins with a percent sign. -/
def readDirective (cursor : Cursor) : Except SyntaxFault (Token × Cursor) := do
  let start := cursor.skip 1
  let name := start.rest.takeWhile isNameChar
  let behind := start.skipWhile isNameChar
  if !endsWord behind.rest then .error .badDirective
  let behind := behind.skipWhile isBlank
  let (token, behind) ←
    if name == "YAML".toList then readVersion behind
    else if name == "TAG".toList then readHandle behind
    else .error .badDirective
  let behind := behind.skipWhile isBlank
  let behind := if behind.rest.head? == some '#' then behind.skipLine else behind
  if behind.rest.head?.any (fun c => !isBreak c) then .error .badDirective
  .ok (token, behind.skipBreak)

end Yaml
end ChipEight
